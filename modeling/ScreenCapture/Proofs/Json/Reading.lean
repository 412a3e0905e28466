import ScreenCapture.Proofs.Json.Numerals

set_option autoImplicit false

namespace ScreenCapture

namespace Json

variable {A S : Type} {read : Reader A} {text : String} {value : A}

def Carries (read : Reader A) (text : String) (value : A) : Prop :=
  ∃ tokens, Spells text.toList tokens ∧ ∀ rest, read (tokens ++ rest) = some (value, rest)

namespace Carries

theorem parse?_eq (carries : Carries read text value) : parse? read text = some value := by
  obtain ⟨tokens, spells, taken⟩ := carries
  have alone := taken []
  rw [List.append_nil] at alone
  rw [parse?, tokens?_of_spells spells, Option.bind_eq_bind, Option.bind_some, alone]
  rfl

theorem fill (carries : Carries read text value) (set : S → A → S) :
    ∃ tokens, Spells text.toList tokens ∧ ∀ state rest, (do
      let (value, rest) ← read (tokens ++ rest)
      return (set state value, rest)) = some (set state value, rest) := by
  obtain ⟨tokens, spells, taken⟩ := carries
  refine ⟨tokens, spells, fun state rest => ?_⟩
  rw [taken]
  rfl

end Carries

theorem carries_integer {low high value : Int} (within : low ≤ value ∧ value ≤ high) :
    Carries (readInteger low high) (toString value) value := by
  refine ⟨[.number (numeral value)], ?_, fun rest => ?_⟩
  next =>
    rw [toString_toList]
    exact spells_numeral value
  next =>
    rw [List.singleton_append, readInteger, integer?_numeral, Option.bind_eq_bind, Option.bind_some,
      if_pos within]
    rfl

theorem carries_bool (value : Bool) : Carries readBool (writeBool value) value := by
  refine ⟨[.bool value], ?_, fun _ => rfl⟩
  cases value with
  | false => exact fun _ => ⟨_, rfl, rfl⟩
  | true => exact fun _ => ⟨_, rfl, rfl⟩

theorem carries_name {ofName? : String → Option A} {name : String} (plain : Plain name.toList)
    (known : ofName? name = some value) : Carries (readName ofName?) (writeName name) value := by
  refine ⟨[.text name.toList], ?_, fun rest => ?_⟩
  next =>
    have written : (writeName name).toList = '"' :: name.toList ++ ['"'] := by simp [writeName]
    rw [written]
    exact spells_text plain
  next =>
    rw [List.singleton_append, readName, decode_plain plain, Option.bind_eq_bind, Option.bind_some,
      String.ofList_toList, known]
    rfl

structure Entry (S : Type) where
  name : String
  text : String
  set : S → S

namespace Entry

variable {entry : Entry S} {entries : List (Entry S)} {fields : List (Field S)}

def written (entry : Entry S) : String × String := (entry.name, entry.text)

structure Fits (entry : Entry S) (fields : List (Field S)) : Prop where
  plain : Plain entry.name.toList
  read : ∃ field, fields.find? (fun field => field.name == entry.name) = some field ∧
    ∃ tokens, Spells entry.text.toList tokens ∧
      ∀ state rest, field.read state (tokens ++ rest) = some (entry.set state, rest)

def setAll (entries : List (Entry S)) (state : S) : S :=
  entries.foldl (fun state entry => entry.set state) state

theorem Fits.reads (fits : entry.Fits fields) : ∃ tokens,
    Spells (writeMember entry.written).toList (.text entry.name.toList :: tokens) ∧
      ∀ seen state rest, entry.name ∉ seen →
        readMember fields seen state (.text entry.name.toList :: tokens ++ rest) =
          some ((entry.name :: seen, entry.set state), rest) := by
  obtain ⟨field, found, tokens, spells, taken⟩ := fits.read
  refine ⟨.colon :: tokens, ?_, fun seen state rest fresh => ?_⟩
  next =>
    have written : (writeMember entry.written).toList =
        ('"' :: entry.name.toList ++ ['"']) ++ ':' :: entry.text.toList := by
      simp [writeMember, Entry.written]
    rw [written]
    exact (spells_text fits.plain).join rfl spells
  next =>
    have key : readKey (.text entry.name.toList :: .colon :: tokens ++ rest) =
        some (entry.name, tokens ++ rest) := by
      simp only [List.cons_append, readKey, decode_plain fits.plain, Option.bind_eq_bind,
        Option.bind_some, String.ofList_toList, pure]
    rw [readMember, key, Option.bind_eq_bind, Option.bind_some]
    simp only [found, if_neg fresh, taken, Option.bind_eq_bind, Option.bind_some, pure]

-- Members follow each other with commas between them. There is fuel for all, as each has a token.
theorem reads_all (first : Entry S) (rest : List (Entry S))
    (fits : ∀ entry ∈ first :: rest, entry.Fits fields)
    (distinct : ((first :: rest).map name).Nodup) : ∃ tokens,
      Spells (",".intercalate ((first :: rest).map fun entry => writeMember entry.written)).toList
        (.text first.name.toList :: tokens) ∧
      rest.length ≤ tokens.length ∧
      ∀ fuel seen state after, rest.length < fuel →
        (∀ entry ∈ first :: rest, entry.name ∉ seen) →
          readMembers fields fuel seen state
              (.text first.name.toList :: tokens ++ .endObject :: after) =
            some ((((first :: rest).map name).reverse ++ seen, setAll (first :: rest) state), after) := by
  induction rest generalizing first with
  | nil =>
    obtain ⟨tokens, spells, taken⟩ := (fits first (List.mem_singleton_self first)).reads
    refine ⟨tokens, ?_, Nat.zero_le _, fun fuel seen state after enough fresh => ?_⟩
    next => simpa using spells
    next =>
      obtain ⟨fuel, rfl⟩ := Nat.exists_eq_add_one.mpr enough
      rw [readMembers, taken seen state _ (fresh first (List.mem_singleton_self first))]
      rfl
  | cons second rest ih =>
    obtain ⟨fitsFirst, fits⟩ := List.forall_mem_cons.mp fits
    obtain ⟨tokens, spells, taken⟩ := fitsFirst.reads
    rw [List.map_cons, List.nodup_cons] at distinct
    obtain ⟨tokens', spells', enough', taken'⟩ := ih second fits distinct.2
    refine ⟨tokens ++ .comma :: .text second.name.toList :: tokens', ?_, ?_,
      fun fuel seen state after enough fresh => ?_⟩
    next =>
      rw [List.map_cons, List.map_cons, String.intercalate_cons_cons, String.toList_append,
        String.toList_append, List.append_assoc]
      exact spells.join (c := ',') rfl spells'
    next =>
      simp only [List.length_append, List.length_cons]
      omega
    next =>
      obtain ⟨freshFirst, fresh⟩ := List.forall_mem_cons.mp fresh
      obtain ⟨fuel, rfl⟩ := Nat.exists_eq_add_one.mpr (Nat.zero_lt_of_lt enough)
      have apart : ∀ entry ∈ second :: rest, entry.name ∉ first.name :: seen := by
        intro entry member seen
        rcases List.mem_cons.mp seen with same | before
        next => exact distinct.1 (same ▸ List.mem_map_of_mem member)
        next => exact fresh entry member before
      have later := taken' fuel (first.name :: seen) (first.set state) after
        (Nat.lt_of_succ_lt_succ enough) apart
      have split : .text first.name.toList :: (tokens ++ .comma :: .text second.name.toList :: tokens') ++
          .endObject :: after = .text first.name.toList :: tokens ++
            .comma :: (.text second.name.toList :: tokens' ++ .endObject :: after) := by simp
      have names : ((first :: second :: rest).map name).reverse ++ seen =
          ((second :: rest).map name).reverse ++ first.name :: seen := by simp
      rw [split, readMembers, taken seen state _ freshFirst, names]
      exact later

end Entry

theorem spells_object {members : List (String × String)} {tokens : List Token}
    (spells : Spells (",".intercalate (members.map writeMember)).toList tokens) :
    Spells (writeObject members).toList (.beginObject :: (tokens ++ [.endObject])) := by
  have written : (writeObject members).toList =
      [] ++ '\x7b' :: ((",".intercalate (members.map writeMember)).toList ++ ['\x7d']) := by
    simp [writeObject]
  rw [written]
  exact Spells.nil.join rfl (spells.join rfl .nil)

theorem carries_record {closed : Bool} {fields : List (Field S)} {entries : List (Entry S)} {state : S}
    (fits : ∀ entry ∈ entries, entry.Fits fields) (distinct : (entries.map Entry.name).Nodup)
    (all : closed = true → ∀ field ∈ fields, field.name ∈ entries.map Entry.name) :
    Carries (readRecord closed fields state) (writeObject (entries.map Entry.written))
      (Entry.setAll entries state) := by
  cases entries with
  | nil =>
    have none : (closed && !fields.isEmpty) = false := by
      cases closed with
      | false => rfl
      | true =>
        rw [List.eq_nil_iff_forall_not_mem.mpr fun field member => nomatch all rfl field member]
        rfl
    refine ⟨_, spells_object Spells.nil, fun rest => ?_⟩
    rw [List.nil_append, List.cons_append, List.singleton_append, readRecord, none]
    rfl
  | cons first others =>
    obtain ⟨tokens, spells, enough, taken⟩ := Entry.reads_all first others fits distinct
    have inner : Spells (",".intercalate (((first :: others).map Entry.written).map writeMember)).toList
        (.text first.name.toList :: tokens) := by
      rw [List.map_map]
      exact spells
    refine ⟨_, spells_object inner, fun rest => ?_⟩
    have shape : .beginObject :: ((.text first.name.toList :: tokens) ++ [.endObject]) ++ rest =
        .beginObject :: (.text first.name.toList :: tokens ++ .endObject :: rest) := by simp
    have members := taken (.text first.name.toList :: tokens ++ .endObject :: rest).length [] state rest
      (by simp only [List.length_append, List.length_cons]; omega) fun entry _ => List.not_mem_nil
    have complete : (closed && !fields.all fun field =>
        decide (field.name ∈ ((first :: others).map Entry.name).reverse ++ [])) = false := by
      cases closed with
      | false => rfl
      | true =>
        simp only [Bool.true_and, Bool.not_eq_false', List.all_eq_true, decide_eq_true_eq,
          List.append_nil, List.mem_reverse]
        exact all rfl
    rw [shape, readRecord, members, Option.bind_eq_bind, Option.bind_some]
    next =>
      dsimp only
      rw [complete]
      rfl
    next => simp

end Json

end ScreenCapture
