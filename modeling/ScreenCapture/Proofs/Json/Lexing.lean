import ScreenCapture.Json.Reader

set_option autoImplicit false

namespace ScreenCapture

namespace Json

variable {c : Char} {chars chars' raw : List Char} {token : Token} {tokens tokens' : List Token}

namespace Lexer

variable {lexer closed : Lexer}

theorem mark_cases (mark : mark? c = some token) :
    isSpace c = false ∧ c ≠ '"' ∧ isNumeric c = false ∧ ¬ ('a' ≤ c ∧ c ≤ 'z') := by
  unfold mark? at mark
  split at mark
  case h_7 => exact nomatch mark
  all_goals decide

theorem begin_mark (mark : mark? c = some token) : lexer.begin c = some (lexer.emit token) := by
  obtain ⟨space, quote, numeric, letter⟩ := mark_cases mark
  have digit : (isDigit c || c == '-') = false := by
    simp only [isNumeric, Bool.or_eq_false_iff] at numeric ⊢
    simp only [numeric, and_self]
  simp only [begin, space, digit, quote, if_false, Bool.false_eq_true, Bool.and_eq_true,
    decide_eq_true_eq, letter, mark, Option.map_some]

theorem step_mark (mark : mark? c = some token) (ended : lexer.close = some closed) :
    lexer.step c = some (closed.emit token) := by
  obtain ⟨_, _, numeric, letter⟩ := mark_cases mark
  have next : lexer.beginNext c = some (closed.emit token) := by
    rw [beginNext, ended]
    exact begin_mark mark
  obtain ⟨mode, tokens⟩ := lexer
  cases mode with
  | between =>
    cases ended
    exact begin_mark mark
  | inNumber read => simpa only [step, numeric, if_false, Bool.false_eq_true] using next
  | inWord read =>
    simpa only [step, letter, if_false, Bool.and_eq_true, decide_eq_true_eq] using next
  | inText read | inEscape read | inHex missing read => exact nomatch ended

end Lexer

-- After any other tokens, the characters are these tokens. The end of the last one may be open.
def Spells (chars : List Char) (tokens : List Token) : Prop :=
  ∀ before, ∃ lexer, chars.foldlM Lexer.step ⟨.between, before⟩ = some lexer ∧
    lexer.close = some ⟨.between, tokens.reverse ++ before⟩

theorem tokens?_of_spells {text : String} (spells : Spells text.toList tokens) :
    tokens? text = some tokens := by
  obtain ⟨lexer, read, ended⟩ := spells []
  rw [tokens?, Lexer.start, read, Option.bind_eq_bind, Option.bind_some, Lexer.finish, ended,
    Option.map_some, List.append_nil, List.reverse_reverse]

namespace Spells

theorem nil : Spells [] [] := fun _ => ⟨_, rfl, rfl⟩

theorem join (first : Spells chars tokens) (mark : mark? c = some token)
    (second : Spells chars' tokens') : Spells (chars ++ c :: chars') (tokens ++ token :: tokens') := by
  intro before
  obtain ⟨lexer, read, ended⟩ := first before
  obtain ⟨lexer', read', ended'⟩ := second (token :: (tokens.reverse ++ before))
  refine ⟨lexer', ?_, ?_⟩
  next =>
    rw [List.foldlM_append, read, Option.bind_eq_bind, Option.bind_some, List.foldlM_cons,
      Lexer.step_mark mark ended, Option.bind_eq_bind, Option.bind_some]
    exact read'
  next =>
    rw [ended', List.reverse_append, List.reverse_cons, List.append_assoc, List.append_assoc]
    rfl

end Spells

def Plain (chars : List Char) : Prop := ∀ c ∈ chars, c ≠ '"' ∧ c ≠ '\\' ∧ 32 ≤ c.toNat

-- Character by character of the list, not over all characters.
instance (chars : List Char) : Decidable (Plain chars) := List.decidableBAll _ chars

theorem foldlM_inText (plain : Plain raw) (read : List Char) (before : List Token) :
    raw.foldlM Lexer.step ⟨.inText read, before⟩ = some ⟨.inText (raw.reverse ++ read), before⟩ := by
  induction raw generalizing read with
  | nil => rfl
  | cons c raw ih =>
    obtain ⟨⟨quote, escape, printed⟩, plain⟩ := List.forall_mem_cons.mp plain
    rw [List.foldlM_cons, Lexer.step]
    simp only [quote, escape, Nat.not_lt.mpr printed, if_false]
    rw [Option.bind_eq_bind, Option.bind_some, ih plain, List.reverse_cons, List.append_assoc]
    rfl

theorem spells_text (plain : Plain raw) : Spells ('"' :: raw ++ ['"']) [.text raw] := by
  intro before
  have opened : Lexer.step ⟨.between, before⟩ '"' = some ⟨.inText [], before⟩ := rfl
  have closed (read : List Char) : Lexer.step ⟨.inText read, before⟩ '"' =
      some ⟨.between, .text read.reverse :: before⟩ := rfl
  refine ⟨⟨.between, .text raw :: before⟩, ?_, rfl⟩
  rw [List.cons_append, List.foldlM_cons, opened, Option.bind_eq_bind, Option.bind_some,
    List.foldlM_append, foldlM_inText plain, Option.bind_eq_bind, Option.bind_some, List.append_nil,
    List.foldlM_cons, closed, List.reverse_reverse]
  rfl

theorem decode_plain (plain : Plain raw) : decode raw = some raw := by
  induction raw with
  | nil => rfl
  | cons c raw ih =>
    obtain ⟨⟨_, escape, _⟩, plain⟩ := List.forall_mem_cons.mp plain
    rw [decode, ih plain]
    next => rfl
    all_goals
      intros
      contradiction

theorem foldlM_inNumber (numeric : raw.all isNumeric = true) (read : List Char)
    (before : List Token) :
    raw.foldlM Lexer.step ⟨.inNumber read, before⟩ =
      some ⟨.inNumber (raw.reverse ++ read), before⟩ := by
  induction raw generalizing read with
  | nil => rfl
  | cons c raw ih =>
    rw [List.all_cons, Bool.and_eq_true] at numeric
    rw [List.foldlM_cons, Lexer.step]
    simp only [numeric.1, if_true]
    rw [Option.bind_eq_bind, Option.bind_some, ih numeric.2, List.reverse_cons, List.append_assoc]
    rfl

theorem spells_number (begins : (isDigit c || c == '-') = true) (numeric : raw.all isNumeric = true)
    (number : isNumber (c :: raw) = true) : Spells (c :: raw) [.number (c :: raw)] := by
  intro before
  have space : isSpace c = false := by
    refine Bool.eq_false_iff.mpr fun space => ?_
    simp only [isSpace, Bool.or_eq_true, beq_iff_eq] at space
    rcases space with ((rfl | rfl) | rfl) | rfl
    all_goals exact absurd begins (by decide)
  have quote : c ≠ '"' := by
    rintro rfl
    exact absurd begins (by decide)
  have opened : Lexer.step ⟨.between, before⟩ c = some ⟨.inNumber [c], before⟩ := by
    simp only [Lexer.step, Lexer.begin, space, quote, begins, if_true, if_false, Bool.false_eq_true]
  refine ⟨⟨.inNumber (raw.reverse ++ [c]), before⟩, ?_, ?_⟩
  next =>
    rw [List.foldlM_cons, opened, Option.bind_eq_bind, Option.bind_some]
    exact foldlM_inNumber numeric [c] before
  next =>
    have reverse : (raw.reverse ++ [c]).reverse = c :: raw := by simp
    simp only [Lexer.close, reverse, number, if_true]
    rfl

end Json

end ScreenCapture
