import Choreography.Proofs.Literal.Tokens

/-!
# Numerals

**What is read as a number is a numeral** (`exists_figure`), and **a numeral is read** before
any text in which no token goes on (`Figure.readNumber_eq`).  The reader scans a numeral twice,
once for its outline and once for what it denotes, and `scan_parts` says for both what each
part of it is scanned as.
-/

namespace Choreography.Grammar

open Text Literal

variable {c : Char} {text rest after : List Char}

/-! ## Parts of numerals -/

/-- The characters that a numeral may be written with. -/
def inNumeral (c : Char) : Bool :=
  c.isDigit || c == '+' || c == '-' || c == '.' || c == 'e' || c == 'E'

theorem inNumeral_of_isDigit (digit : c.isDigit = true) : inNumeral c = true := by
  simp [inNumeral, digit]

theorem goesOn_of_inNumeral (within : inNumeral c = true) : goesOn c = true := by
  simp only [inNumeral, Bool.or_eq_true, beq_iff_eq] at within
  obtain ((((digit | rfl) | rfl) | rfl) | rfl) | rfl := within
  · exact goesOn_of_isDigit c digit
  all_goals rfl

namespace Sign

variable {sign : List Char} {negative : Bool}

theorem scanSign_eq (signed : Sign sign negative) (avoids : Avoids isSign after) :
    Numeral.scanSign (sign ++ after) = (sign, after) := by
  cases signed with
  | plus => rfl
  | minus => rfl
  | none =>
    rw [List.nil_append, Numeral.scanSign]
    all_goals
      rintro rest rfl
      cases avoids _ rfl

theorem decide_eq (signed : Sign sign negative) : decide (sign = ['-']) = negative := by
  cases signed <;> rfl

theorem inNumeral (signed : Sign sign negative) : ∀ c ∈ sign, inNumeral c = true := by
  cases signed <;> simp [Grammar.inNumeral]

end Sign

theorem sign_scanSign (text : List Char) :
    Sign (Numeral.scanSign text).1 (decide ((Numeral.scanSign text).1 = ['-'])) := by
  unfold Numeral.scanSign
  split
  · exact .minus
  · exact .plus
  · exact .none

theorem scanDigits_append_of_isDigit (digits : ∀ c ∈ text, c.isDigit = true)
    (avoids : Avoids Char.isDigit after) : Numeral.scanDigits (text ++ after) = (text, after) := by
  rw [Numeral.scanDigits, List.takeWhile_append_of_pos digits,
    List.dropWhile_append_of_pos digits, avoids.takeWhile, avoids.dropWhile, List.append_nil]

theorem isDigit_scanDigits (text : List Char) :
    ∀ c ∈ (Numeral.scanDigits text).1, c.isDigit = true :=
  List.all_eq_true.mp List.all_takeWhile

/-- What starts with digits starts with no character of another kind. -/
theorem Digits.avoids {kind : Char → Bool} (digits : Digits text)
    (not : ∀ c, c.isDigit = true → kind c = false) (after : List Char) :
    Avoids kind (text ++ after) := by
  obtain ⟨c, rest, rfl⟩ := List.exists_cons_of_ne_nil digits.some
  exact .cons (not c (digits.digits c List.mem_cons_self))

namespace Mantissa

variable {mantissa whole fraction : List Char}

/-- A mantissa is the digits before the point, and the point with the digits after it. -/
theorem split (digits : Mantissa mantissa whole fraction) :
    ∃ tail, mantissa = whole ++ tail ∧ fraction = tail.drop 1 ∧ whole ++ fraction ≠ [] ∧
      (∀ c ∈ whole, c.isDigit = true) ∧ (tail = [] ∨ tail = '.' :: fraction) ∧
      ∀ c ∈ fraction, c.isDigit = true := by
  cases digits with
  | whole before =>
    exact ⟨[], (List.append_nil _).symm, rfl, by simpa using before.some, before.digits, .inl rfl,
      nofun⟩
  | point before after =>
    exact ⟨'.' :: fraction, rfl, rfl, by simp [before.some], before.digits, .inr rfl, after⟩
  | leading after =>
    exact ⟨'.' :: fraction, rfl, rfl, after.some, nofun, .inr rfl, after.digits⟩

theorem first (digits : Mantissa mantissa whole fraction) :
    ∃ c rest, mantissa = c :: rest ∧ (c.isDigit = true ∨ c = '.') := by
  cases digits with
  | whole before =>
    obtain ⟨c, rest, rfl⟩ := List.exists_cons_of_ne_nil before.some
    exact ⟨c, rest, rfl, .inl (before.digits c List.mem_cons_self)⟩
  | point before after =>
    obtain ⟨c, rest, rfl⟩ := List.exists_cons_of_ne_nil before.some
    exact ⟨c, _, rfl, .inl (before.digits c List.mem_cons_self)⟩
  | leading after => exact ⟨'.', fraction, rfl, .inr rfl⟩

theorem inNumeral (digits : Mantissa mantissa whole fraction) :
    ∀ c ∈ mantissa, inNumeral c = true := by
  obtain ⟨tail, rfl, -, -, before, shape, after⟩ := digits.split
  intro c here
  rcases List.mem_append.mp here with digit | later
  · exact inNumeral_of_isDigit (before c digit)
  · rcases shape with rfl | rfl
    · cases later
    · rcases List.mem_cons.mp later with rfl | digit
      · rfl
      · exact inNumeral_of_isDigit (after c digit)

end Mantissa

theorem scanFraction_shape (text : List Char) :
    (Numeral.scanFraction text).1 = [] ∨
      ∃ digits, (Numeral.scanFraction text).1 = '.' :: digits ∧
        ∀ c ∈ digits, c.isDigit = true := by
  unfold Numeral.scanFraction
  split
  · rename_i rest
    exact .inr ⟨_, rfl, isDigit_scanDigits rest⟩
  · exact .inl rfl

/-- The fraction that is scanned, and digits before it, are a mantissa. -/
theorem mantissa_scanFraction {whole : List Char} (digits : ∀ c ∈ whole, c.isDigit = true)
    (some_ : whole ++ (Numeral.scanFraction text).1.drop 1 ≠ []) :
    Mantissa (whole ++ (Numeral.scanFraction text).1) whole
      ((Numeral.scanFraction text).1.drop 1) := by
  rcases scanFraction_shape text with nothing | ⟨fraction, point, after⟩
  · rw [nothing] at some_ ⊢
    rw [List.drop_nil, List.append_nil] at some_ ⊢
    exact .whole ⟨some_, digits⟩
  · rw [point] at some_ ⊢
    cases whole with
    | nil => exact .leading ⟨some_, after⟩
    | cons c rest => exact .point ⟨List.cons_ne_nil c rest, digits⟩ after

theorem scanFraction_append_eq {tail fraction : List Char}
    (shape : tail = [] ∨ tail = '.' :: fraction) (digits : ∀ c ∈ fraction, c.isDigit = true)
    (digit : Avoids Char.isDigit after) (point : Avoids (· == '.') after) :
    Numeral.scanFraction (tail ++ after) = (tail, after) := by
  rcases shape with rfl | rfl
  · rw [List.nil_append, Numeral.scanFraction]
    rintro rest rfl
    cases point _ rfl
  · rw [List.cons_append, Numeral.scanFraction, scanDigits_append_of_isDigit digits digit]

theorem scanExponent_mark (mark : c = 'e' ∨ c = 'E') (rest : List Char) :
    Numeral.scanExponent (c :: rest) =
      (c :: ((Numeral.scanSign rest).1 ++ (Numeral.scanDigits (Numeral.scanSign rest).2).1),
        (Numeral.scanDigits (Numeral.scanSign rest).2).2) := by
  rw [Numeral.scanExponent, if_pos mark]
  rfl

namespace Exponent

variable {exponent : List Char} {shift : Int}

theorem scanExponent_eq (power : Exponent exponent shift) (digit : Avoids Char.isDigit after)
    (mark : Avoids isExponentMark after) :
    Numeral.scanExponent (exponent ++ after) = (exponent, after) := by
  cases power with
  | none =>
    cases after with
    | nil => rfl
    | cons c rest =>
      have other := mark c rfl
      simp only [isExponentMark, Bool.or_eq_false_iff, beq_eq_false_iff_ne] at other
      rw [List.nil_append, Numeral.scanExponent, if_neg (by simp [other])]
  | some marks signed digits =>
    rw [List.cons_append, scanExponent_mark marks, List.append_assoc,
      signed.scanSign_eq (digits.avoids isSign_of_isDigit after),
      scanDigits_append_of_isDigit digits.digits digit]

theorem exponentValue?_eq (power : Exponent exponent shift) :
    Numeral.exponentValue? exponent = .some shift := by
  cases power with
  | none => rfl
  | @some mark sign digits negative marks signed power =>
    have scanned : Numeral.scanSign (sign ++ digits) = (sign, digits) := by
      refine signed.scanSign_eq ?_
      simpa using power.avoids isSign_of_isDigit []
    simp only [Numeral.exponentValue?, scanned, if_neg power.some]
    cases signed <;> rfl

/-- What starts with an exponent starts with its mark. -/
theorem avoids {kind : Char → Bool} (power : Exponent exponent shift)
    (not : ∀ c, isExponentMark c = true → kind c = false) (later : Avoids kind after) :
    Avoids kind (exponent ++ after) := by
  cases power with
  | none => exact later
  | some marks => exact .cons (not _ (by rcases marks with rfl | rfl <;> rfl))

theorem inNumeral (power : Exponent exponent shift) : ∀ c ∈ exponent, inNumeral c = true := by
  cases power with
  | none => exact nofun
  | some marks signed digits =>
    intro c here
    rcases List.mem_cons.mp here with rfl | later
    · rcases marks with rfl | rfl <;> rfl
    · rcases List.mem_append.mp later with sign | digit
      · exact signed.inNumeral c sign
      · exact inNumeral_of_isDigit (digits.digits c digit)

end Exponent

/-- An exponent that is scanned and has a value is one. -/
theorem exponent_scanExponent {shift : Int}
    (denotes : Numeral.exponentValue? (Numeral.scanExponent text).1 = .some shift) :
    Exponent (Numeral.scanExponent text).1 shift := by
  cases text with
  | nil =>
    cases denotes
    exact .none
  | cons c rest =>
    by_cases marks : c = 'e' ∨ c = 'E'
    · -- scanning the exponent again finds the same sign and the same digits
      have signed := sign_scanSign rest
      have digits := isDigit_scanDigits (Numeral.scanSign rest).2
      rw [scanExponent_mark marks] at denotes ⊢
      generalize (Numeral.scanSign rest).1 = sign at signed denotes ⊢
      generalize (Numeral.scanDigits (Numeral.scanSign rest).2).1 = power at digits denotes ⊢
      have again : Numeral.scanSign (sign ++ power) = (sign, power) := by
        refine signed.scanSign_eq fun d head => isSign_of_isDigit d ?_
        exact digits d (List.mem_of_head? head)
      simp only [Numeral.exponentValue?, again] at denotes
      split at denotes
      · cases denotes
      · rename_i some_
        have written := Exponent.some marks signed ⟨some_, digits⟩
        split at denotes
        · rename_i minus
          cases denotes
          simpa [minus] using written
        · rename_i plus
          cases denotes
          simpa [plus] using written
    · rw [Numeral.scanExponent, if_neg marks] at denotes ⊢
      cases denotes
      exact .none

/-- The parts of a numeral are scanned off one another, before a text in which no token goes
on. -/
theorem scan_parts {sign mantissa whole fraction exponent : List Char} {negative : Bool}
    {shift : Int} (signed : Sign sign negative) (digits : Mantissa mantissa whole fraction)
    (power : Exponent exponent shift) (ends : EndsToken after) :
    ∃ tail left, mantissa = whole ++ tail ∧ fraction = tail.drop 1 ∧ whole ++ fraction ≠ [] ∧
      Numeral.scanSign (sign ++ (mantissa ++ (exponent ++ after))) = (sign, left) ∧
      Numeral.scanDigits left = (whole, tail ++ (exponent ++ after)) ∧
      Numeral.scanFraction (tail ++ (exponent ++ after)) = (tail, exponent ++ after) ∧
      Numeral.scanExponent (exponent ++ after) = (exponent, after) := by
  obtain ⟨tail, rfl, drops, some_, before, shape, within⟩ := digits.split
  -- no part starts with a character that the part before it could go on with
  have digit : Avoids Char.isDigit (exponent ++ after) := by
    refine power.avoids (fun c mark => ?_) (ends.mono goesOn_of_isDigit)
    simp only [isExponentMark, Bool.or_eq_true, beq_iff_eq] at mark
    rcases mark with rfl | rfl <;> rfl
  have point : Avoids (· == '.') (exponent ++ after) := by
    refine power.avoids (fun c mark => ?_) (ends.mono goesOn_of_point)
    simp only [isExponentMark, Bool.or_eq_true, beq_iff_eq] at mark
    rcases mark with rfl | rfl <;> rfl
  have unsigned : Avoids isSign (whole ++ tail ++ (exponent ++ after)) := by
    obtain ⟨c, rest, same, starts⟩ := digits.first
    rw [same]
    refine .cons ?_
    rcases starts with digit | rfl
    · exact isSign_of_isDigit c digit
    · rfl
  have onTail : Avoids Char.isDigit (tail ++ (exponent ++ after)) := by
    rcases shape with rfl | rfl
    · exact digit
    · exact .cons rfl
  refine ⟨tail, _, rfl, drops, some_, signed.scanSign_eq unsigned, ?_,
    scanFraction_append_eq shape within digit point,
    power.scanExponent_eq (ends.mono goesOn_of_isDigit) (ends.mono goesOn_of_isExponentMark)⟩
  rw [List.append_assoc]
  exact scanDigits_append_of_isDigit before onTail

/-! ## Whole numerals -/

namespace Figure

variable {number : Number}

theorem scan_eq (figure : Figure text number) (ends : EndsToken after) :
    Numeral.scan (text ++ after) = (text, after) := by
  cases figure with
  | mk signed digits power closest finite =>
    obtain ⟨tail, left, rfl, -, -, onSign, onWhole, onTail, onExponent⟩ :=
      scan_parts signed digits power ends
    rw [Numeral.scan]
    simp only [List.append_assoc] at onSign ⊢
    simp only [onSign, onWhole, onTail, onExponent]

theorem read?_eq (figure : Figure text number) : Numeral.read? text = some number := by
  cases figure with
  | mk signed digits power closest finite =>
    obtain ⟨tail, left, rfl, drops, some_, onSign, onWhole, onTail, onExponent⟩ :=
      scan_parts signed digits power (Avoids.nil : EndsToken [])
    simp only [List.append_nil] at onSign onWhole onTail onExponent
    rw [Numeral.read?]
    simp only [onSign, onWhole, onTail, onExponent, ← drops, some_, power.exponentValue?_eq,
      signed.decide_eq, closest, ne_eq, not_true_eq_false, or_false, if_false, Option.map_some]

theorem isFinite (figure : Figure text number) : number.isFinite = true := by
  cases figure with
  | mk signed digits power closest finite => exact finite

theorem inNumeral (figure : Figure text number) : ∀ c ∈ text, inNumeral c = true := by
  cases figure with
  | mk signed digits power closest finite =>
    intro c here
    rcases List.mem_append.mp here with sign | later
    · exact signed.inNumeral c sign
    · rcases List.mem_append.mp later with digit | exponent
      · exact digits.inNumeral c digit
      · exact power.inNumeral c exponent

/-- All characters of a numeral are characters of tokens. -/
theorem goesOn (figure : Figure text number) : ∀ c ∈ text, goesOn c = true :=
  fun c here => goesOn_of_inNumeral (figure.inNumeral c here)

theorem first (figure : Figure text number) :
    ∃ c rest, text = c :: rest ∧ startsNumber c = true := by
  cases figure with
  | mk signed digits power closest finite =>
    obtain ⟨c, rest, rfl, starts⟩ := digits.first
    cases signed with
    | none =>
      refine ⟨c, _, rfl, ?_⟩
      rcases starts with digit | rfl
      · simp [startsNumber, digit]
      · rfl
    | plus => exact ⟨'+', _, rfl, rfl⟩
    | minus => exact ⟨'-', _, rfl, rfl⟩

/-- **A numeral** is read before a text in which no token goes on. -/
theorem readNumber_eq (figure : Figure text number) (context : Context)
    (ends : EndsToken after) : readNumber context (text ++ after) = .ok (number, after) := by
  simp only [readNumber, figure.scan_eq ends, figure.read?_eq, Option.filter_some,
    figure.isFinite, if_true]

end Figure

/-- A whole text that is read as a finite number is a numeral. -/
theorem figure_of_read? {number : Number} (read : Numeral.read? text = some number)
    (finite : number.isFinite = true) : Figure text number := by
  have whole := Numeral.scan_append text
  have signed := sign_scanSign text
  have digits := isDigit_scanDigits (Numeral.scanSign text).2
  -- the text is the parts that were scanned, one behind the other, with nothing left over
  rw [Numeral.scan] at whole
  rw [Numeral.read?] at read
  simp only at whole read
  generalize (Numeral.scanSign text).1 = sign at signed whole read
  generalize Numeral.scanDigits (Numeral.scanSign text).2 = front at digits whole read
  obtain ⟨before, afterWhole⟩ := front
  split at read
  · cases read
  · rename_i both
    rw [not_or, Decidable.not_not] at both
    obtain ⟨noRest, some_⟩ := both
    obtain ⟨shift, denotes, same⟩ := Option.map_eq_some_iff.mp read
    rw [noRest, List.append_nil, List.append_assoc, List.append_assoc, ← List.append_assoc before]
      at whole
    rw [← whole]
    exact .mk signed (mantissa_scanFraction digits some_) (exponent_scanExponent denotes)
      same.symm finite

/-- **What is read as a number** is a numeral at the front of the text. -/
theorem exists_figure {context : Context} {number : Number}
    (read : readNumber context text = .ok (number, rest)) :
    ∃ token, text = token ++ rest ∧ Figure token number := by
  simp only [readNumber] at read
  split at read
  · rename_i found denotes
    cases read
    obtain ⟨denotes, finite⟩ := Option.filter_eq_some_iff.mp denotes
    exact ⟨_, (Numeral.scan_append text).symm, figure_of_read? denotes finite⟩
  · cases read

end Choreography.Grammar
