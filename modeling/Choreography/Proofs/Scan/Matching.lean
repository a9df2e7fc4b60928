import Choreography.Proofs.Scan.Partition

/-!
# Brackets that match

The bracket that closes another one is searched for by a scan of its own, which starts at the
opening bracket as if nothing had stood before it.  Until it finds the closing one this scan
stays inside the pair, and the scan of the whole text does the same, only with the brackets
around it that were open already (`run_behind`).

**So the two agree** (`closingIndex?_exact`): what is found is the first closing bracket outside
quotes after which the scan of the whole text is as deep as before the pair, whatever that scan
has been through.  In between it is deeper, so the text is cut nowhere inside the pair.
-/

namespace Choreography

open Text

namespace Scan

variable {scan : Scan} {text before inside : List Char} {opener : Char} {depth place stop : Nat}

/-! ## Brackets that were open already -/

/-- A scan with a number of pairs of brackets around it. -/
def enclosed (pairs : Nat) (scan : Scan) : Scan := { scan with depth := scan.depth + pairs }

/-- A text that closes no bracket but its own does the same in any number of brackets. -/
theorem run_enclosed (closes : scan.ClosesOpen text) (pairs : Nat) :
    (scan.enclosed pairs).run text = (scan.run text).enclosed pairs ∧
      (scan.enclosed pairs).ClosesOpen text := by
  induction pairs with
  | zero => exact ⟨rfl, closes⟩
  | succ pairs ih =>
    obtain ⟨same, still⟩ := run_deeper ih.2
    exact ⟨same.trans (congrArg deeper ih.1), still.closesOpen⟩

/-- **Behind a bracket that is opened outside quotes**, and until it is closed, the scan of the
whole text is a fresh one with the brackets around it that were open before. -/
theorem run_behind (outside : (start.run before).quote = none) (opens : isOpening opener = true)
    (stays : inner.StaysInside inside) :
    start.run (before ++ opener :: inside) =
      (inner.run inside).enclosed (start.run before).depth := by
  have tidy : (start.run before).Tidy := Tidy.run (fun _ => rfl) before
  have settled : (start.run before).escaped = false := tidy outside
  have first : (start.run before).step opener = inner.enclosed (start.run before).depth := by
    rw [step_opening outside opens, deeper, enclosed, inner, outside, settled, Nat.add_comm]
  rw [run_append, run_cons, first, (run_enclosed stays.closesOpen _).1]

/-- Up to the end of what stands inside a pair the scan is deeper than before the pair. -/
theorem depth_lt_of_prefix (outside : (start.run before).quote = none)
    (opens : isOpening opener = true) (stays : inner.StaysInside inside) {front : List Char}
    (behind : before ++ [opener] <+: front) (within : front <+: before ++ opener :: inside) :
    (start.run before).depth < (start.run front).depth := by
  obtain ⟨early, rfl⟩ := behind
  rw [List.append_assoc, List.singleton_append] at within ⊢
  obtain ⟨late, split⟩ := within
  rw [List.append_assoc, List.cons_append] at split
  obtain ⟨-, rfl⟩ := List.cons.inj (List.append_cancel_left split)
  have inside := (staysInside_append.mp stays).1
  have deep : 1 ≤ (inner.run early).depth := depth_run_of_staysInside (Nat.le_refl 1) inside
  rw [run_behind outside opens inside]
  show _ < (inner.run early).depth + _
  omega

/-! ## Where brackets are opened and closed -/

/-- Outside quotes, and with `depth` brackets open, a bracket is opened at a place of a text. -/
def OpensAt (text : List Char) (depth place : Nat) : Prop :=
  ∃ before opener after, text = before ++ opener :: after ∧ width before = place ∧
    (start.run before).quote = none ∧ (start.run before).depth = depth ∧ isOpening opener = true

/-- Outside quotes a closing bracket stands at a place of a text, and leaves `depth` brackets
open. -/
def ClosesAt (text : List Char) (depth place : Nat) : Prop :=
  ∃ before closer after, text = before ++ closer :: after ∧ width before = place ∧
    (start.run before).quote = none ∧ isClosing closer = true ∧
      (start.run (before ++ [closer])).depth = depth

/-- Of the closing brackets behind a place that leave `depth` brackets open the first one. -/
structure Matches (text : List Char) (depth place stop : Nat) : Prop where
  behind : place < stop
  closes : ClosesAt text depth stop
  first : ∀ earlier, place < earlier → earlier < stop → ¬ClosesAt text depth earlier

/-- From a place on, and up to another one, more than `depth` brackets are open. -/
def DeepBetween (text : List Char) (depth place stop : Nat) : Prop :=
  ∀ before after, text = before ++ after → place < width before → width before ≤ stop →
    depth < (start.run before).depth

theorem Matches.eq {other : Nat} (one : Matches text depth place stop)
    (two : Matches text depth place other) : stop = other := by
  rcases Nat.lt_trichotomy stop other with earlier | same | later
  · exact absurd one.closes (two.first stop one.behind earlier)
  · exact same
  · exact absurd two.closes (one.first other two.behind later)

/-- While a pair is not closed, more brackets are open than before it. -/
theorem deepBetween_of_staysInside (outside : (start.run before).quote = none)
    (opens : isOpening opener = true) (stays : inner.StaysInside inside)
    (whole : before ++ opener :: inside <+: text) :
    DeepBetween text (start.run before).depth (width before)
      (width (before ++ opener :: inside)) := by
  rintro front after rfl behind within
  obtain ⟨rest, split⟩ := whole
  have first : before ++ opener :: (inside ++ rest) = front ++ after := by
    rw [← split, List.append_assoc, List.cons_append]
  exact depth_lt_of_prefix outside opens stays
    (concat_prefix_of_width_lt first ⟨after, rfl⟩ behind)
    (prefix_of_width_le ⟨after, rfl⟩ ⟨rest, split⟩ within)

namespace DeepBetween

variable {later : Nat} {wide : List Char}

/-- A closing bracket where the scan is deep leaves it deep. -/
theorem not_closesAt (deep : DeepBetween text depth place (width wide)) (front : wide <+: text)
    (behind : place < later) (early : later < width wide) : ¬ClosesAt text depth later := by
  rintro ⟨before, closer, after, split, rfl, -, -, level⟩
  obtain ⟨more, rfl⟩ := concat_prefix_of_width_lt split.symm front early
  have positive := closer.utf8Size_pos
  have still : depth < (start.run (before ++ [closer])).depth := by
    refine deep _ after (by rw [split, List.append_assoc, List.singleton_append]) ?_ ?_
    · rw [width_append, width_cons]
      omega
    · rw [width_append _ more]
      omega
  omega

/-- **Where the scan is deep the text is not cut**, whatever the separator. -/
theorem not_mem_cuts (deep : DeepBetween text depth place (width wide)) (front : wide <+: text)
    {separator : Char} (behind : place < later) (early : later < width wide) :
    later ∉ Segment.cuts (Segment.splitTop ⟨text, 0⟩ separator) := by
  intro cut
  obtain ⟨before, after, split, rfl, top⟩ := Segment.exists_of_mem_cuts cut
  rw [Nat.zero_add] at behind early
  have open_ : depth < (start.run before).depth :=
    deep before _ split behind (Nat.le_of_lt early)
  rw [isTop, Bool.and_eq_true, Bool.and_eq_true, Option.isNone_iff_eq_none] at top
  obtain ⟨⟨outside, -⟩, level⟩ := top
  split at level
  · -- a bracket that closes the outermost pair would close more than stands inside
    rename_i closes
    have one : (start.run before).depth = 1 := by
      have most := of_decide_eq_true level
      omega
    refine deep.not_closesAt front behind early ⟨before, separator, after, split, rfl, outside,
      closes, ?_⟩
    rw [run_append, run_cons, run_nil, step_closing outside closes]
    show (start.run before).depth - 1 = depth
    omega
  · have none_ := beq_iff_eq.mp level
    omega

end DeepBetween

/-! ## The search -/

theorem dropBytes_append (before rest : List Char) :
    dropBytes (width before) (before ++ rest) = rest := by
  induction before with
  | nil => cases rest <;> rw [width_nil, List.nil_append, dropBytes]
  | cons c before ih =>
    have positive := c.utf8Size_pos
    obtain ⟨more, same⟩ : ∃ more, c.utf8Size + width before = more + 1 :=
      ⟨c.utf8Size + width before - 1, by omega⟩
    rw [width_cons, List.cons_append, same, dropBytes, ← same, Nat.add_sub_cancel_left, ih]

/-- The search starts afresh at the opening bracket. -/
theorem closingIndex?_append (opens : isOpening opener = true) (before rest : List Char) :
    closingIndex? (before ++ opener :: rest) (width before) =
      (closing? inner true rest).map fun (inside, _, _) => width (before ++ opener :: inside) := by
  rw [closingIndex?, dropBytes_append, closing?_opening opens, Option.map_map]
  simp only [width_append]
  rfl

/-- What the search comes to: the matching bracket, or none, and then there is none. -/
theorem closingIndex?_cases (opens : OpensAt text depth place) :
    (∃ wide, closingIndex? text place = some (width wide) ∧ wide <+: text ∧
      Matches text depth place (width wide) ∧ DeepBetween text depth place (width wide)) ∨
    (closingIndex? text place = none ∧ ∀ later, place < later → ¬ClosesAt text depth later) := by
  obtain ⟨before, opener, rest, rfl, rfl, outside, rfl, opens⟩ := opens
  cases found : closing? inner true rest with
  | some read =>
    obtain ⟨inside, closer, after⟩ := read
    obtain ⟨rfl, closes⟩ := closing?_append found
    obtain ⟨stays, ends⟩ := staysInside_of_closing? (fun _ => rfl) (Nat.le_refl 1) found
    have front : before ++ opener :: inside <+: before ++ opener :: (inside ++ closer :: after) :=
      ⟨closer :: after, by rw [List.append_assoc, List.cons_append]⟩
    have deep := deepBetween_of_staysInside outside opens stays front
    have reached := run_behind outside opens stays
    rw [ends] at reached
    refine .inl ⟨before ++ opener :: inside, ?_, front, ⟨?_, ?_, ?_⟩, deep⟩
    · rw [closingIndex?_append opens, found]
      rfl
    · have positive := opener.utf8Size_pos
      rw [width_append, width_cons]
      omega
    · -- the scan of the whole text has the one pair open that this bracket closes
      refine ⟨_, closer, after, ?_, rfl, ?_, closes, ?_⟩
      · rw [List.append_assoc, List.cons_append]
      · rw [reached]
        rfl
      · rw [run_append, reached, run_cons, run_nil, step_closing rfl closes]
        show 1 + (start.run before).depth - 1 = _
        omega
    · exact fun earlier behind early => deep.not_closesAt front behind early
  | none =>
    -- then the scan stays inside to the end, and no bracket behind this one can close it
    have stays := staysInside_of_closing?_none (Nat.le_refl 1) found
    have front : before ++ opener :: rest <+: before ++ opener :: rest := List.prefix_rfl
    have deep := deepBetween_of_staysInside outside opens stays front
    refine .inr ⟨?_, fun later behind closes => ?_⟩
    · rw [closingIndex?_append opens, found]
      rfl
    · obtain ⟨early, closer, after, split, rfl, -⟩ := id closes
      refine deep.not_closesAt front behind ?_ closes
      have positive := closer.utf8Size_pos
      rw [split, width_append, width_cons]
      omega

/-- **The search for the closing bracket agrees with the scan of the whole text.**  For a bracket
that is opened outside quotes:

* what is found is the first closing bracket behind it, outside quotes, after which as many
  brackets are open as before it;
* nothing is found exactly if there is no such bracket;
* between the two more brackets are open, and the text is cut at no top-level separator. -/
theorem closingIndex?_exact (opens : OpensAt text depth place) :
    (∀ stop, closingIndex? text place = some stop ↔ Matches text depth place stop) ∧
    (closingIndex? text place = none ↔ ∀ later, place < later → ¬ClosesAt text depth later) ∧
    ∀ stop, closingIndex? text place = some stop →
      DeepBetween text depth place stop ∧
      ∀ separator, ∀ cut ∈ Segment.cuts (Segment.splitTop ⟨text, 0⟩ separator),
        ¬(place < cut ∧ cut < stop) := by
  rcases closingIndex?_cases opens with ⟨wide, found, front, matching, deep⟩ | ⟨found, none_⟩
  · rw [found]
    refine ⟨fun stop => ⟨?_, fun other => ?_⟩, ⟨nofun, fun none_ => ?_⟩, ?_⟩
    · rintro ⟨⟩
      exact matching
    · rw [matching.eq other]
    · exact absurd matching.closes (none_ _ matching.behind)
    · rintro stop ⟨⟩
      refine ⟨deep, fun separator cut here between => ?_⟩
      exact deep.not_mem_cuts front between.1 between.2 here
  · rw [found]
    refine ⟨fun stop => ⟨nofun, fun other => ?_⟩, ⟨fun _ => none_, fun _ => rfl⟩, nofun⟩
    exact absurd other.closes (none_ stop other.behind)

/-- Behind a bracket that closes nothing, a quoted bracket inside the outer pair and one inside the
pair itself, with a wide character, a comma and a pair of two kinds. -/
theorem closingIndex?_exact_past_quotes :
    let text := [')', '{', '\x27', '}', '\x27', '[', 'é', ',', '\x22', ']', '\x22', '(', '}', ']',
      ']']
    OpensAt text 1 5 ∧ closingIndex? text 5 = some 14 ∧ Matches text 1 5 14 ∧
      DeepBetween text 1 5 14 ∧ 8 ∉ Segment.cuts (Segment.splitTop ⟨text, 0⟩ ',') := by
  intro text
  have opens : OpensAt text 1 5 :=
    ⟨[')', '{', '\x27', '}', '\x27'], '[', _, rfl, rfl, rfl, rfl, rfl⟩
  have found : closingIndex? text 5 = some 14 :=
    (closingIndex?_append rfl [')', '{', '\x27', '}', '\x27'] _).trans (by decide)
  obtain ⟨agrees, -, between⟩ := closingIndex?_exact opens
  obtain ⟨deep, uncut⟩ := between 14 found
  exact ⟨opens, found, (agrees 14).mp found, deep, fun cut => uncut ',' 8 cut (by decide)⟩

end Scan

end Choreography
