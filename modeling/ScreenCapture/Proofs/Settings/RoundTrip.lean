import Mathlib.Data.List.Perm.Subperm
import ScreenCapture.Proofs.Json.Shapes
import ScreenCapture.Settings

set_option autoImplicit false

namespace ScreenCapture

namespace Settings

variable {settings source : Settings}

structure Bounded (settings : Settings) : Prop where
  frameSize : settings.frameSize.Bounded
  origin : settings.origin.Bounded
  dpi : settings.dpi.Bounded
  frameCount : settings.frameCount < addressLimit
  frameInterval : settings.frameInterval < addressLimit
  crop : settings.crop.Bounded
  channelCapacity : settings.channelCapacity < addressLimit

def adopt (settings source : Settings) (names : List String) : Settings where
  frameSize := if "frame_size" ∈ names then source.frameSize else settings.frameSize
  origin := if "origin" ∈ names then source.origin else settings.origin
  dpi := if "dpi" ∈ names then source.dpi else settings.dpi
  frameCount := if "frame_count" ∈ names then source.frameCount else settings.frameCount
  frameInterval :=
    if "frame_interval_ms" ∈ names then source.frameInterval else settings.frameInterval
  crop := if "crop" ∈ names then source.crop else settings.crop
  rotation := if "rotation" ∈ names then source.rotation else settings.rotation
  channelCapacity :=
    if "channel_capacity" ∈ names then source.channelCapacity else settings.channelCapacity
  sharedMemory := if "shared_memory" ∈ names then source.sharedMemory else settings.sharedMemory

theorem adopt_nil (settings source : Settings) : settings.adopt source [] = settings := by
  simp only [adopt, List.not_mem_nil, if_false]

theorem adopt_cons (settings source : Settings) (name : String) (names : List String) :
    (settings.adopt source [name]).adopt source names = settings.adopt source (name :: names) := by
  have either {A : Type} (field : String) (new old : A) :
      (if field ∈ names then new else if field ∈ [name] then new else old) =
        if field ∈ name :: names then new else old := by
    by_cases later : field ∈ names
    all_goals simp [later]
  simp only [adopt, either]

theorem adopt_members (settings source : Settings) :
    settings.adopt source (source.members.map Prod.fst) = source := by
  simp [adopt, members]

def memberEntry (source : Settings) (member : String × String) : Json.Entry Settings :=
  ⟨member.1, member.2, fun settings => settings.adopt source [member.1]⟩

theorem setAll_memberEntry (settings source : Settings) (given : List (String × String)) :
    Json.Entry.setAll (given.map source.memberEntry) settings =
      settings.adopt source (given.map Prod.fst) := by
  induction given generalizing settings with
  | nil => exact (settings.adopt_nil source).symm
  | cons member given ih =>
    rw [List.map_cons, Json.Entry.setAll, List.foldl_cons, List.map_cons, ← adopt_cons]
    exact ih _

theorem carries_count {count : Nat} (below : count < addressLimit) :
    Json.Carries readCount (toString count) count := by
  have within : 0 ≤ (count : Int) ∧ (count : Int) ≤ (addressLimit - 1 : Nat) := by omega
  obtain ⟨tokens, spells, taken⟩ := Json.carries_integer within
  refine ⟨tokens, spells, fun rest => ?_⟩
  rw [readCount, taken]
  rfl

theorem field_fits {A : Type} {read : Json.Reader A} {name text : String} {value : A}
    {set : Settings → A → Settings} (carries : Json.Carries read text value)
    (found : fields.find? (fun field => field.name == name) = some (field name read set))
    (plain : Json.Plain name.toList)
    (same : ∀ settings, settings.adopt source [name] = set settings value) :
    (source.memberEntry (name, text)).Fits fields := by
  refine ⟨plain, _, found, ?_⟩
  obtain ⟨tokens, spells, taken⟩ := carries.fill set
  refine ⟨tokens, spells, fun settings rest => ?_⟩
  simp only [memberEntry, same]
  exact taken settings rest

theorem memberEntry_fits (bounded : source.Bounded) :
    ∀ member ∈ source.members, (source.memberEntry member).Fits fields := by
  simp only [members, List.forall_mem_cons]
  refine ⟨?_, ?_, ?_, ?_, ?_, ?_, ?_, ?_, ?_, nofun⟩
  next => exact field_fits (Json.carries_size bounded.frameSize) rfl (by decide) fun _ => rfl
  next => exact field_fits (Json.carries_point bounded.origin) rfl (by decide) fun _ => rfl
  next => exact field_fits (Json.carries_point bounded.dpi) rfl (by decide) fun _ => rfl
  next => exact field_fits (carries_count bounded.frameCount) rfl (by decide) fun _ => rfl
  next => exact field_fits (carries_count bounded.frameInterval) rfl (by decide) fun _ => rfl
  next => exact field_fits (Json.carries_rect bounded.crop) rfl (by decide) fun _ => rfl
  next => exact field_fits (Json.carries_rotation source.rotation) rfl (by decide) fun _ => rfl
  next => exact field_fits (carries_count bounded.channelCapacity) rfl (by decide) fun _ => rfl
  next => exact field_fits (Json.carries_bool source.sharedMemory) rfl (by decide) fun _ => rfl

theorem carries_members (bounded : source.Bounded) {given : List (String × String)}
    (part : given.Subperm source.members) :
    Json.Carries read (Json.writeObject given) (standard.adopt source (given.map Prod.fst)) := by
  have members : (given.map source.memberEntry).map Json.Entry.written = given := by
    rw [List.map_map]
    exact List.map_id given
  have names : (given.map source.memberEntry).map Json.Entry.name = given.map Prod.fst := List.map_map
  have distinct : (given.map Prod.fst).Nodup := by
    obtain ⟨sorted, same, kept⟩ := part
    have all : (source.members.map Prod.fst).Nodup :=
      show ["frame_size", "origin", "dpi", "frame_count", "frame_interval_ms", "crop", "rotation",
        "channel_capacity", "shared_memory"].Nodup by decide
    exact (same.map Prod.fst).nodup_iff.mp (all.sublist (kept.map Prod.fst))
  have fits : ∀ entry ∈ given.map source.memberEntry, entry.Fits fields :=
    List.forall_mem_map.mpr fun member given => memberEntry_fits bounded member (part.subset given)
  have carries : Json.Carries read _ _ := Json.carries_record fits (names ▸ distinct) nofun
  rwa [members, setAll_memberEntry] at carries

theorem load_carried {path text : String} (carries : Json.Carries read text settings) :
    load path (some text.toUTF8) = settings.validate.map fun _ => settings := by
  have whole : String.fromUTF8? text.toUTF8 = some text := dif_pos text.isValidUTF8
  rw [load, Option.bind_some, whole]
  dsimp only
  rw [parse, carries.parse?_eq]
  rfl

theorem load_merges (bounded : settings.Bounded) (path : String) :
    (∀ given : List (String × String), given.Subperm settings.members →
      let merged := standard.adopt settings (given.map Prod.fst)
      let loaded := load path (some (Json.writeObject given).toUTF8)
      (merged.frameSize.isEmpty = false → 1 ≤ merged.channelCapacity → loaded = .ok merged) ∧
      (merged.frameSize.isEmpty = true → loaded = .error (.emptyFrame merged.frameSize)) ∧
      (merged.frameSize.isEmpty = false → merged.channelCapacity = 0 → loaded = .error .noChannel)) ∧
    (settings.validate = .ok () → load path (some settings.write.toUTF8) = .ok settings) := by
  refine ⟨?_, fun valid => ?_⟩
  next =>
    intro given part merged loaded
    have outcome : loaded = merged.validate.map fun _ => merged :=
      load_carried (carries_members bounded part)
    refine ⟨fun solid some => ?_, fun empty => ?_, fun solid none => ?_⟩
    next =>
      rw [outcome, validate_eq_ok_iff.mpr ⟨solid, Nat.one_le_iff_ne_zero.mp some⟩]
      rfl
    next =>
      rw [outcome, validate, if_pos empty]
      rfl
    next =>
      rw [outcome, validate, if_neg (Bool.eq_false_iff.mp solid), if_pos none]
      rfl
  next =>
    have whole := carries_members bounded (List.Subperm.refl settings.members)
    rw [adopt_members] at whole
    rw [write, load_carried whole, valid]
    rfl

def outermost : Settings where
  frameSize := ⟨2147483647, 1⟩
  origin := ⟨-2147483648, 2147483647⟩
  dpi := ⟨0, -1⟩
  frameCount := 18446744073709551615
  frameInterval := 0
  crop := ⟨2147483647, 0, -2147483648, 10⟩
  rotation := .deg270
  channelCapacity := 18446744073709551615
  sharedMemory := true

theorem load_merges_outermost :
    outermost.Bounded ∧ load "a.json" (some outermost.write.toUTF8) = .ok outermost ∧
      load "a.json" (some "\x7b\"rotation\":\"270\",\"frame_count\":18446744073709551615\x7d".toUTF8) =
        .ok { standard with frameCount := 18446744073709551615, rotation := .deg270 } := by
  have bounded : outermost.Bounded :=
    ⟨by decide, by decide, by decide, by decide, by decide, by decide, by decide⟩
  obtain ⟨parts, whole⟩ := load_merges bounded "a.json"
  refine ⟨bounded, whole (by decide), ?_⟩
  have part : List.Subperm [("rotation", Json.writeRotation .deg270),
      ("frame_count", toString (18446744073709551615 : Nat))] outermost.members :=
    ⟨_, .swap _ _ _, .cons _ (.cons _ (.cons _ (.cons_cons _ (.cons _ (.cons _ (.cons_cons _
      (List.nil_sublist _)))))))⟩
  exact (parts _ part).1 rfl (by decide)

end Settings

end ScreenCapture
