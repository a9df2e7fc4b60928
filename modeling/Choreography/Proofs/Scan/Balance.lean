import Choreography.Proofs.Text.Blanks
import Choreography.Scan

/-!
# Balanced texts

A text is balanced if a scan that stands inside a pair of brackets stands there again
after the text and never left it in between (`Keeps`).  It then does the same inside any
number of brackets (`run_deeper`), and:

* a pair of brackets around a balanced text is found as one pair (`closing?_of_keeps`),
  and what is found as one pair is a balanced text (`keeps_of_closing?`);
* a *solid* text is balanced and has no separator at its top level, so it is never cut
  (`pieces_append`, `findTop?_of_free`).
-/

namespace Choreography

namespace Scan

/-- A scan that stands inside one pair of brackets. -/
def inner : Scan := ⟨none, false, 1⟩

/-- A scan does not leave the outermost pair of brackets during a text. -/
def StaysInside (scan : Scan) : List Char → Prop
  | [] => True
  | c :: rest => 1 ≤ (scan.step c).depth ∧ (scan.step c).StaysInside rest

/-- No separator stands at the top level of a text. -/
def IsFree (separator : Char) (scan : Scan) : List Char → Prop
  | [] => True
  | c :: rest =>
    (scan.isTop c && c == separator) = false ∧ (scan.step c).IsFree separator rest

/-- The two separators of entries and of their keys. -/
def isSeparator (c : Char) : Bool := c == ',' || c == ':'

/-- A character that is neither a quote nor a bracket. -/
def isPlain (c : Char) : Bool := !isQuote c && !isOpening c && !isClosing c

@[simp] theorem run_nil (scan : Scan) : scan.run [] = scan := rfl

@[simp] theorem run_cons (scan : Scan) (c : Char) (rest : List Char) :
    scan.run (c :: rest) = (scan.step c).run rest := rfl

theorem run_append (scan : Scan) (first second : List Char) :
    scan.run (first ++ second) = (scan.run first).run second :=
  List.foldl_append

theorem staysInside_append {scan : Scan} {first second : List Char} :
    scan.StaysInside (first ++ second) ↔
      scan.StaysInside first ∧ (scan.run first).StaysInside second := by
  induction first generalizing scan with
  | nil => simp [StaysInside]
  | cons c rest ih => simp [StaysInside, ih, and_assoc]

theorem isFree_append {separator : Char} {scan : Scan} {first second : List Char} :
    scan.IsFree separator (first ++ second) ↔
      scan.IsFree separator first ∧ (scan.run first).IsFree separator second := by
  induction first generalizing scan with
  | nil => simp [IsFree]
  | cons c rest ih => simp only [List.cons_append, IsFree, ih, run_cons, and_assoc]

/-- Inside brackets no separator stands at the top level. -/
theorem isFree_of_staysInside {separator : Char} (separates : isSeparator separator = true)
    {scan : Scan} {text : List Char} (inside : 1 ≤ scan.depth) (stays : scan.StaysInside text) :
    scan.IsFree separator text := by
  induction text generalizing scan with
  | nil => exact trivial
  | cons c rest ih =>
    refine ⟨?_, ih stays.1 stays.2⟩
    by_cases same : c = separator
    · -- only a closing bracket stands at the top level at a depth of one
      subst same
      have plain : isClosing c = false := by
        rw [isSeparator, Bool.or_eq_true, beq_iff_eq, beq_iff_eq] at separates
        rcases separates with rfl | rfl <;> rfl
      have deep : (scan.depth == 0) = false := beq_eq_false_iff_ne.mpr (Nat.ne_of_gt inside)
      simp [isTop, plain, deep]
    · simp [same]

/-! ## More brackets around -/

/-- A scan with one more pair of brackets around it. -/
def deeper (scan : Scan) : Scan := { scan with depth := scan.depth + 1 }

/-- No bracket is closed during a text but one that is open. -/
def ClosesOpen (scan : Scan) : List Char → Prop
  | [] => True
  | c :: rest =>
    (scan.quote = none → isClosing c = true → 1 ≤ scan.depth) ∧ (scan.step c).ClosesOpen rest

/-- Where a step closes no bracket but an open one, one more pair around it does not
matter. -/
theorem step_deeper {scan : Scan} {c : Char}
    (closes : scan.quote = none → isClosing c = true → 1 ≤ scan.depth) :
    scan.deeper.step c = (scan.step c).deeper := by
  obtain ⟨quote, escaped, depth⟩ := scan
  cases quote with
  | some quote =>
    -- between quotes a step looks at the escape and the character, never at the depth
    by_cases skips : escaped = true
    · simp [step, deeper, skips]
    · by_cases slash : c = '\\'
      · simp [step, deeper, skips, slash]
      · by_cases ends : c = quote
        · subst ends
          simp [step, deeper, skips, slash]
        · simp [step, deeper, skips, slash, ends]
  | none =>
    simp only [step, deeper]
    split
    · rfl
    · split
      · rfl
      · split
        · rename_i closing
          have positive : 1 ≤ depth := closes rfl closing
          rw [show depth + 1 - 1 = depth - 1 + 1 by omega]
        · rfl

/-- A text that closes no bracket but its own does the same one level deeper, and never
leaves the brackets around it. -/
theorem run_deeper {scan : Scan} {text : List Char} (closes : scan.ClosesOpen text) :
    scan.deeper.run text = (scan.run text).deeper ∧ scan.deeper.StaysInside text := by
  induction text generalizing scan with
  | nil => exact ⟨rfl, trivial⟩
  | cons c rest ih =>
    obtain ⟨same, still⟩ := ih closes.2
    rw [run_cons, run_cons, StaysInside, step_deeper closes.1]
    exact ⟨same, Nat.le_add_left 1 _, still⟩

/-! ## Balanced texts -/

/-- A text after which a scan inside brackets stands where it stood before. -/
structure Keeps (text : List Char) : Prop where
  run : inner.run text = inner
  inside : inner.StaysInside text

namespace Keeps

theorem nil : Keeps [] := ⟨rfl, trivial⟩

theorem append {first second : List Char} (early : Keeps first) (late : Keeps second) :
    Keeps (first ++ second) where
  run := by rw [run_append, early.run, late.run]
  inside := by
    rw [staysInside_append, early.run]
    exact ⟨early.inside, late.inside⟩

end Keeps

/-- A balanced text without a separator at its top level. -/
structure Solid (text : List Char) : Prop where
  keeps : Keeps text
  run : start.run text = start
  free : ∀ separator, isSeparator separator = true → start.IsFree separator text

namespace Solid

theorem append {first second : List Char} (early : Solid first) (late : Solid second) :
    Solid (first ++ second) where
  keeps := early.keeps.append late.keeps
  run := by rw [run_append, early.run, late.run]
  free := by
    intro separator separates
    rw [isFree_append, early.run]
    exact ⟨early.free separator separates, late.free separator separates⟩

end Solid

/-! ## Plain characters -/

/-- Outside quotes a plain character changes nothing. -/
theorem step_plain {scan : Scan} (outside : scan.quote = none) {c : Char}
    (plain : isPlain c = true) : scan.step c = scan := by
  simp only [isPlain, Bool.and_eq_true, Bool.not_eq_true'] at plain
  simp [step, outside, plain.1.1, plain.1.2, plain.2]

theorem keeps_plain {text : List Char} (plain : ∀ c ∈ text, isPlain c = true) : Keeps text := by
  induction text with
  | nil => exact Keeps.nil
  | cons c rest ih =>
    have same : inner.step c = inner := step_plain rfl (plain c List.mem_cons_self)
    have later := ih fun d here => plain d (List.mem_cons_of_mem c here)
    exact ⟨by rw [run_cons, same, later.run], by
      rw [StaysInside, same]
      exact ⟨Nat.le_refl 1, later.inside⟩⟩

/-- Plain characters none of which is a separator are a solid text. -/
theorem solid_plain {text : List Char}
    (plain : ∀ c ∈ text, isPlain c = true ∧ isSeparator c = false) : Solid text := by
  refine ⟨keeps_plain fun c here => (plain c here).1, ?_, ?_⟩
  · induction text with
    | nil => rfl
    | cons c rest ih =>
      rw [run_cons, step_plain rfl (plain c List.mem_cons_self).1]
      exact ih fun d here => plain d (List.mem_cons_of_mem c here)
  · intro separator separates
    induction text with
    | nil => exact trivial
    | cons c rest ih =>
      obtain ⟨first, single⟩ := plain c List.mem_cons_self
      have different : c ≠ separator := by
        rintro rfl
        rw [single] at separates
        cases separates
      rw [IsFree, step_plain rfl first]
      exact ⟨by simp [different], ih fun d here => plain d (List.mem_cons_of_mem c here)⟩

theorem isPlain_of_isSeparator {c : Char} (separates : isSeparator c = true) :
    isPlain c = true := by
  rw [isSeparator, Bool.or_eq_true, beq_iff_eq, beq_iff_eq] at separates
  rcases separates with rfl | rfl <;> rfl

theorem keeps_separator {c : Char} (separates : isSeparator c = true) : Keeps [c] := by
  refine keeps_plain fun d here => ?_
  rw [List.mem_singleton.mp here]
  exact isPlain_of_isSeparator separates

/-! ## Quoted strings -/

/-- The inside of a quoted string: a scan between the quotes stays between them. -/
structure Quoted (quote : Char) (text : List Char) : Prop where
  run : ∀ depth, (⟨some quote, false, depth⟩ : Scan).run text = ⟨some quote, false, depth⟩
  inside : ∀ depth, 1 ≤ depth → (⟨some quote, false, depth⟩ : Scan).StaysInside text
  free : ∀ separator depth, (⟨some quote, false, depth⟩ : Scan).IsFree separator text

namespace Quoted

variable {quote : Char} {text : List Char}

theorem nil : Quoted quote [] := ⟨fun _ => rfl, fun _ _ => trivial, fun _ _ => trivial⟩

theorem step_of_ne {c : Char} (slash : c ≠ '\\') (other : c ≠ quote) (depth : Nat) :
    (⟨some quote, false, depth⟩ : Scan).step c = ⟨some quote, false, depth⟩ := by
  simp [step, slash, other]

theorem cons {c : Char} (slash : c ≠ '\\') (other : c ≠ quote) (later : Quoted quote text) :
    Quoted quote (c :: text) where
  run depth := by rw [run_cons, step_of_ne slash other, later.run]
  inside depth deep := by
    rw [StaysInside, step_of_ne slash other]
    exact ⟨deep, later.inside depth deep⟩
  free separator depth := by
    rw [IsFree, step_of_ne slash other]
    exact ⟨rfl, later.free separator depth⟩

/-- A backslash and any character after it stay between the quotes. -/
theorem escape (c : Char) (later : Quoted quote text) : Quoted quote ('\\' :: c :: text) where
  run depth := by
    rw [run_cons, run_cons]
    exact later.run depth
  inside depth deep := ⟨deep, deep, later.inside depth deep⟩
  free separator depth := ⟨rfl, rfl, later.free separator depth⟩

end Quoted

theorem step_quote {scan : Scan} (outside : scan.quote = none) {c : Char}
    (quotes : isQuote c = true) : scan.step c = { scan with quote := some c } := by
  simp [step, outside, quotes]

/-- A quoted string is a solid text. -/
theorem solid_quoted {quote : Char} {text : List Char} (quotes : isQuote quote = true)
    (quoted : Quoted quote text) : Solid (quote :: (text ++ [quote])) := by
  have slash : quote ≠ '\\' := by
    rintro rfl
    cases quotes
  have opens (depth : Nat) :
      (⟨none, false, depth⟩ : Scan).step quote = ⟨some quote, false, depth⟩ :=
    step_quote rfl quotes
  have closes (depth : Nat) :
      (⟨some quote, false, depth⟩ : Scan).step quote = ⟨none, false, depth⟩ := by
    simp [step, slash]
  refine ⟨⟨?_, ?_⟩, ?_, ?_⟩
  · rw [run_cons, inner, opens, run_append, quoted.run, run_cons, closes, run_nil]
  · rw [StaysInside, inner, opens, staysInside_append, quoted.run, StaysInside, closes]
    exact ⟨Nat.le_refl 1, quoted.inside 1 (Nat.le_refl 1), Nat.le_refl 1, trivial⟩
  · rw [run_cons, start, opens, run_append, quoted.run, run_cons, closes, run_nil]
  · intro separator separates
    rw [IsFree, start, opens, isFree_append, quoted.run, IsFree]
    refine ⟨?_, quoted.free separator 0, rfl, trivial⟩
    simp [isTop, quotes]

/-! ## Brackets -/

theorem step_opening {scan : Scan} (outside : scan.quote = none) {c : Char}
    (opens : isOpening c = true) : scan.step c = scan.deeper := by
  have noQuote : isQuote c = false := by
    simp only [isOpening, Bool.or_eq_true, beq_iff_eq] at opens
    rcases opens with (rfl | rfl) | rfl <;> rfl
  simp [step, outside, noQuote, opens, deeper]

theorem isOpening_of_isClosing {c : Char} (closes : isClosing c = true) :
    isOpening c = false ∧ isQuote c = false := by
  simp only [isClosing, Bool.or_eq_true, beq_iff_eq] at closes
  rcases closes with (rfl | rfl) | rfl <;> exact ⟨rfl, rfl⟩

theorem isClosing_of_isOpening {c : Char} (opens : isOpening c = true) :
    isClosing c = false := by
  cases closes : isClosing c with
  | false => rfl
  | true => exact absurd opens (by simp [(isOpening_of_isClosing closes).1])

theorem step_closing {scan : Scan} (outside : scan.quote = none) {c : Char}
    (closes : isClosing c = true) : scan.step c = { scan with depth := scan.depth - 1 } := by
  simp [step, outside, isOpening_of_isClosing closes, closes]

/-- A scan that stays inside brackets closes none but open ones. -/
theorem StaysInside.closesOpen {scan : Scan} {text : List Char} (stays : scan.StaysInside text) :
    scan.ClosesOpen text := by
  induction text generalizing scan with
  | nil => exact trivial
  | cons c rest ih =>
    refine ⟨?_, ih stays.2⟩
    intro outside closes
    have still := stays.1
    rw [step_closing outside closes] at still
    exact Nat.le_trans still (Nat.sub_le _ _)

/-- A pair of brackets around a balanced text is a solid text. -/
theorem solid_brackets {text : List Char} (keeps : Keeps text) {opener closer : Char}
    (opens : isOpening opener = true) (closes : isClosing closer = true) :
    Solid (opener :: (text ++ [closer])) := by
  -- the text is inside one more pair of brackets than a balanced text is looked at in
  have again := run_deeper keeps.inside.closesOpen
  have within : inner.deeper.run text = inner.deeper := again.1.trans (congrArg deeper keeps.run)
  refine ⟨⟨?_, ?_⟩, ?_, ?_⟩
  · rw [run_cons, step_opening rfl opens, run_append, within, run_cons, step_closing rfl closes]
    rfl
  · rw [StaysInside, step_opening rfl opens, staysInside_append, within, StaysInside,
      step_closing rfl closes]
    exact ⟨Nat.le_add_left 1 _, again.2, Nat.le_refl 1, trivial⟩
  · rw [run_cons, step_opening rfl opens, run_append,
      show start.deeper.run text = inner from keeps.run, run_cons, step_closing rfl closes]
    rfl
  · intro separator separates
    have plain := isPlain_of_isSeparator separates
    simp only [isPlain, Bool.and_eq_true, Bool.not_eq_true'] at plain
    have first : opener ≠ separator := by
      rintro rfl
      rw [plain.1.2] at opens
      cases opens
    have last : closer ≠ separator := by
      rintro rfl
      rw [plain.2] at closes
      cases closes
    rw [IsFree, step_opening rfl opens, isFree_append]
    refine ⟨by simp [first], isFree_of_staysInside separates (Nat.le_refl 1) keeps.inside, ?_⟩
    exact ⟨by simp [last], trivial⟩

/-- The search for the closing bracket goes through a text that stays inside. -/
theorem closing?_of_staysInside {scan : Scan} {text : List Char} {closer : Char}
    (stays : scan.StaysInside text) (ends : scan.run text = inner)
    (closes : isClosing closer = true) (after : List Char) :
    closing? scan true (text ++ closer :: after) = some (text, closer, after) := by
  induction text generalizing scan with
  | nil =>
    rw [run_nil] at ends
    subst ends
    rw [List.nil_append, closing?, step_closing rfl closes]
    simp [inner, closes]
  | cons c rest ih =>
    -- the depth stays positive, so this is not the bracket that is searched for
    have deep : ((scan.step c).depth == 0) = false :=
      beq_eq_false_iff_ne.mpr (Nat.ne_of_gt stays.1)
    rw [List.cons_append, closing?, deep, Bool.and_false, if_neg (by simp), Bool.true_or,
      ih stays.2 ends]
    rfl

/-- Behind the bracket that opens a pair the search goes on inside the pair. -/
theorem closing?_opening {opener : Char} (opens : isOpening opener = true) (rest : List Char) :
    closing? start false (opener :: rest) =
      (closing? inner true rest).map fun (inside, closer, after) =>
        (opener :: inside, closer, after) := by
  have entered : start.step opener = inner := step_opening rfl opens
  rw [closing?, isClosing_of_isOpening opens, entered, opens]
  rfl

/-- **A pair of brackets around a balanced text** is the first pair that is found. -/
theorem closing?_of_keeps {text : List Char} (keeps : Keeps text) {opener closer : Char}
    (opens : isOpening opener = true) (closes : isClosing closer = true) (after : List Char) :
    closing? start false (opener :: (text ++ closer :: after)) =
      some (opener :: text, closer, after) := by
  rw [closing?_opening opens, closing?_of_staysInside keeps.inside keeps.run closes after]
  rfl

/-- Only a closing bracket outside quotes lessens the depth. -/
theorem depth_le_step {scan : Scan} {c : Char}
    (stays : scan.quote = none → isClosing c = false) : scan.depth ≤ (scan.step c).depth := by
  obtain ⟨quote, escaped, depth⟩ := scan
  cases quote with
  | some quote =>
    simp only [step]
    split
    · exact Nat.le_refl _
    · split
      · exact Nat.le_refl _
      · split <;> exact Nat.le_refl _
  | none =>
    simp only [step, stays rfl]
    split
    · exact Nat.le_refl _
    · split
      · exact Nat.le_succ _
      · exact Nat.le_refl _

/-- Inside brackets, a character at which the search for the closing bracket does not end leaves
the scan inside. -/
theorem one_le_depth_step {scan : Scan} {c : Char} (deep : 1 ≤ scan.depth)
    (goesOn : ¬(scan.quote.isNone && isClosing c && true && (scan.step c).depth == 0) = true) :
    1 ≤ (scan.step c).depth := by
  refine Nat.one_le_iff_ne_zero.mpr fun zero => goesOn ?_
  by_cases closes : scan.quote = none ∧ isClosing c = true
  · simp [closes.1, closes.2, zero]
  · -- no other character lessens the depth
    have grows : scan.depth ≤ (scan.step c).depth :=
      depth_le_step fun outside => by simpa [outside] using closes
    omega

/-- Nothing is escaped outside quotes. -/
def Tidy (scan : Scan) : Prop := scan.quote = none → scan.escaped = false

theorem Tidy.step {scan : Scan} (tidy : scan.Tidy) (c : Char) : (scan.step c).Tidy := by
  obtain ⟨quote, escaped, depth⟩ := scan
  cases quote with
  | some quote =>
    by_cases skips : escaped = true
    · simp [Scan.step, Tidy, skips]
    · by_cases slash : c = '\\'
      · simp [Scan.step, Tidy, skips, slash]
      · by_cases ends : c = quote
        · subst ends
          simp [Scan.step, Tidy, skips, slash]
        · simp [Scan.step, Tidy, skips, slash, ends]
  | none =>
    have settled : escaped = false := tidy rfl
    subst settled
    simp only [Scan.step]
    split
    · exact nofun
    · split
      · exact fun _ => rfl
      · split <;> exact fun _ => rfl

theorem Tidy.run {scan : Scan} (tidy : scan.Tidy) (text : List Char) : (scan.run text).Tidy := by
  induction text generalizing scan with
  | nil => exact tidy
  | cons c rest ih => exact ih (tidy.step c)

/-- A scan never leaves brackets during a text in which they are not closed. -/
theorem staysInside_of_closing?_none {scan : Scan} {text : List Char} (deep : 1 ≤ scan.depth)
    (unfinished : closing? scan true text = none) : scan.StaysInside text := by
  induction text generalizing scan with
  | nil => exact trivial
  | cons c rest ih =>
    rw [closing?] at unfinished
    split at unfinished
    · cases unfinished
    · rename_i notHere
      rw [Option.map_eq_none_iff, Bool.true_or] at unfinished
      have still : 1 ≤ (scan.step c).depth := one_le_depth_step deep notHere
      exact ⟨still, ih still unfinished⟩

theorem depth_run_of_staysInside {scan : Scan} {text : List Char} (deep : 1 ≤ scan.depth)
    (stays : scan.StaysInside text) : 1 ≤ (scan.run text).depth := by
  induction text generalizing scan with
  | nil => exact deep
  | cons c rest ih => exact ih stays.1 stays.2

/-- What the search for the closing bracket goes through stays inside. -/
theorem staysInside_of_closing? {scan : Scan} {text inside after : List Char} {closer : Char}
    (tidy : scan.Tidy) (deep : 1 ≤ scan.depth)
    (found : closing? scan true text = some (inside, closer, after)) :
    scan.StaysInside inside ∧ scan.run inside = inner := by
  induction text generalizing scan inside with
  | nil => cases found
  | cons c rest ih =>
    rw [closing?] at found
    split at found
    · rename_i here
      simp only [Bool.and_eq_true, Option.isNone_iff_eq_none, beq_iff_eq, and_true] at here
      obtain ⟨⟨outside, closes⟩, zero⟩ := here
      cases found
      rw [step_closing outside closes] at zero
      refine ⟨trivial, ?_⟩
      -- the depth falls to zero here, so it was one
      have one : scan.depth = 1 := Nat.le_antisymm (Nat.le_of_sub_eq_zero zero) deep
      have settled := tidy outside
      obtain ⟨quote, escaped, depth⟩ := scan
      simp only at one settled outside
      rw [run_nil, inner, one, settled, outside]
    · rename_i notHere
      obtain ⟨⟨front, bracket, back⟩, later, same⟩ := Option.map_eq_some_iff.mp found
      cases same
      rw [Bool.true_or] at later
      have still : 1 ≤ (scan.step c).depth := one_le_depth_step deep notHere
      obtain ⟨stays, ends⟩ := ih (tidy.step c) still later
      exact ⟨⟨still, stays⟩, ends⟩

/-- **What is found as a pair of brackets** holds a balanced text. -/
theorem keeps_of_closing? {opener closer : Char} {text inside after : List Char}
    (opens : isOpening opener = true)
    (found : closing? start false (opener :: text) = some (inside, closer, after)) :
    ∃ body, inside = opener :: body ∧ text = body ++ closer :: after ∧ Keeps body := by
  have whole := (closing?_append found).1
  rw [closing?_opening opens] at found
  obtain ⟨⟨body, bracket, back⟩, later, same⟩ := Option.map_eq_some_iff.mp found
  cases same
  rw [List.cons_append, List.cons.injEq] at whole
  obtain ⟨stays, ends⟩ := staysInside_of_closing? (fun _ => rfl) (Nat.le_refl 1) later
  exact ⟨body, rfl, whole.2.symm, ends, stays⟩

end Scan

end Choreography
