import Choreography.Proofs.Literal.Tokens

/-!
# Nested texts

**The balanced texts are the nested ones** (`keeps_iff_nested`): a scan that stands inside a
pair of brackets stands there again after a text, and never left it, exactly if the text is
put together from plain characters, quoted strings and nested texts in brackets.
-/

namespace Choreography

open Grammar Literal

variable {text : List Char}

namespace Scan

theorem Keeps.of_append {first second : List Char} (early : Keeps first)
    (both : Keeps (first ++ second)) : Keeps second := by
  have run := both.run
  have inside := both.inside
  rw [run_append, early.run] at run
  rw [staysInside_append, early.run] at inside
  exact ⟨run, inside.2⟩

/-! ## Unfinished texts -/

/-- A scan stays between quotes during a text in which they are not closed. -/
theorem quote_run_of_unquote? {quote : Char} (unfinished : unquote? quote text = none)
    (depth : Nat) : ((⟨some quote, false, depth⟩ : Scan).run text).quote = some quote := by
  -- the scan and the reader of quotations look at the same characters one after the other
  induction text using unquote?.induct quote with
  | case1 => rfl
  | case2 rest =>
    rw [unquote?_quote] at unfinished
    cases unfinished
  | case3 slash =>
    have marks : (⟨some quote, false, depth⟩ : Scan).step '\\' = ⟨some quote, true, depth⟩ := rfl
    rw [run_cons, marks, run_nil]
  | case4 escaped rest slash ih =>
    rw [unquote?_escape slash, Option.map_eq_none_iff] at unfinished
    have skips : (⟨some quote, false, depth⟩ : Scan).run ('\\' :: escaped :: rest) =
        (⟨some quote, false, depth⟩ : Scan).run rest := rfl
    rw [skips]
    exact ih unfinished
  | case5 c rest other slash ih =>
    rw [unquote?_cons other slash, Option.map_eq_none_iff] at unfinished
    rw [run_cons, Quoted.step_of_ne slash other]
    exact ih unfinished

/-! ## The front of a balanced text -/

section

variable {c : Char} {rest : List Char}

/-- A balanced text that starts with a quote starts with a quoted string. -/
theorem Keeps.exists_content (keeps : Keeps (c :: rest)) (quotes : isQuote c = true) :
    ∃ raw content after, rest = raw ++ c :: after ∧ Grammar.Content c raw content ∧
      Keeps after := by
  have run := keeps.run
  rw [run_cons, step_quote rfl quotes] at run
  cases found : unquote? c rest with
  | none =>
    -- the quotes would still be open after the text
    have opened := quote_run_of_unquote? found 1
    have closed := congrArg Scan.quote run
    rw [inner, opened] at closed
    cases closed
  | some read =>
    obtain ⟨content, after⟩ := read
    obtain ⟨raw, rfl, inside⟩ := Grammar.exists_content found
    have front := (solid_quoted quotes inside.quoted).keeps
    refine ⟨raw, content, after, rfl, inside, front.of_append ?_⟩
    simpa using keeps

/-- A balanced text that starts with an opening bracket starts with a balanced text in
brackets. -/
theorem Keeps.exists_brackets (keeps : Keeps (c :: rest)) (opens : isOpening c = true) :
    ∃ inside closer after, rest = inside ++ closer :: after ∧ isClosing closer = true ∧
      Keeps inside ∧ Keeps after := by
  have run := keeps.run
  rw [run_cons, step_opening rfl opens] at run
  cases found : closing? inner true rest with
  | none =>
    -- the brackets would still be open after the text
    have stays := staysInside_of_closing?_none (Nat.le_refl 1) found
    have deep := depth_run_of_staysInside (Nat.le_refl 1) stays
    rw [(run_deeper stays.closesOpen).1] at run
    have depth : (inner.run rest).depth + 1 = 1 := congrArg Scan.depth run
    omega
  | some read =>
    obtain ⟨inside, closer, after⟩ := read
    obtain ⟨rfl, closes⟩ := closing?_append found
    obtain ⟨stays, ends⟩ := staysInside_of_closing? (fun _ => rfl) (Nat.le_refl 1) found
    have within : Keeps inside := ⟨ends, stays⟩
    have front := (solid_brackets within opens closes).keeps
    refine ⟨inside, closer, after, rfl, closes, within, front.of_append ?_⟩
    simpa using keeps

/-- A balanced text starts with no closing bracket. -/
theorem Keeps.isClosing (keeps : Keeps (c :: rest)) : Scan.isClosing c = false := by
  cases closes : Scan.isClosing c with
  | false => rfl
  | true =>
    have still := keeps.inside.1
    rw [step_closing rfl closes] at still
    cases still

end

end Scan

/-! ## Balanced and nested texts -/

theorem Scan.keeps_char {c : Char}
    (neither : (isQuote c || isOpening c || isClosing c) = false) : Keeps [c] := by
  refine keeps_plain fun d here => ?_
  rw [List.mem_singleton.mp here]
  simpa [isPlain] using neither

theorem Grammar.Nested.keeps (nested : Nested text) : Scan.Keeps text := by
  induction nested with
  | nil => exact .nil
  | plain neither _ ih => exact (Scan.keeps_char neither).append ih
  | quoted quotes inside _ ih =>
    simpa using (Scan.solid_quoted quotes inside.quoted).keeps.append ih
  | brackets opens _ closes _ inner ih =>
    simpa using (Scan.solid_brackets inner opens closes).keeps.append ih

/-- The first character says what a balanced text starts with, and what follows that is a
shorter balanced text. -/
theorem Scan.Keeps.nested {text : List Char} (keeps : Scan.Keeps text) : Nested text := by
  match text, keeps with
  | [], _ => exact .nil
  | c :: rest, keeps =>
    by_cases quotes : Scan.isQuote c = true
    · obtain ⟨raw, content, after, same, inside, later⟩ := keeps.exists_content quotes
      rw [same]
      exact .quoted quotes inside later.nested
    · by_cases opens : Scan.isOpening c = true
      · obtain ⟨inside, closer, after, same, closes, within, later⟩ := keeps.exists_brackets opens
        rw [same]
        exact .brackets opens within.nested closes later.nested
      · have closes := keeps.isClosing
        have neither : (Scan.isQuote c || Scan.isOpening c || Scan.isClosing c) = false := by
          simp [quotes, opens, closes]
        exact .plain neither ((Scan.keeps_char neither).of_append keeps).nested
termination_by text.length
decreasing_by all_goals simp +arith [*]

/-- **The balanced texts are the nested ones.** -/
theorem Scan.keeps_iff_nested : Scan.Keeps text ↔ Nested text :=
  ⟨Scan.Keeps.nested, Nested.keeps⟩

end Choreography
