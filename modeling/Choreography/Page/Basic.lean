import Choreography.Identity
import Choreography.Json.Basic

/-!
# Pages

A page is a small document to try directives on: data, elements with attributes
and data of their own, and a script of things that happen.  It can be replayed
if no two elements share an id and the script speaks of no other elements;
`fault?` finds the first breach of that.
-/

namespace Choreography

/-- An attribute of an element; it need not be a directive. -/
structure Attribute where
  name : String
  value : String
deriving DecidableEq, Repr, Inhabited

/-- An element of a page.  Its data hide data of the page with the same name. -/
structure PageElement where
  id : ElementId
  attributes : List Attribute
  data : Fields Json
deriving Repr, Inhabited

/-- One thing that happens to a page. -/
inductive ScriptStep where
  /-- A field is written, in the data of an element or of the page. -/
  | set (element : Option ElementId) (field : String) (value : Json)
  | enterView (element : ElementId)
  | tick (count : Nat)
  | lookup (name : String)
  | sequence (names : List String) (options : Fields Json)
  | teardown (element : ElementId)
deriving Repr, Inhabited

/-- The element that a step speaks of, if it speaks of one. -/
def ScriptStep.element? : ScriptStep → Option ElementId
  | .set element _ _ => element
  | .enterView element => some element
  | .teardown element => some element
  | .tick _ => none
  | .lookup _ => none
  | .sequence _ _ => none

/-- A page. -/
structure Page where
  data : Fields Json
  elements : List PageElement
  script : List ScriptStep
deriving Repr, Inhabited

/-- Why a text is not a page that can be replayed. -/
inductive PageError where
  /-- The text is not JSON, or not JSON of the form of a page. -/
  | malformed
  | repeatedElement (id : ElementId)
  /-- The step of the given position, counted from one, speaks of an element that
  the page does not have. -/
  | unknownElement (position : Nat) (id : ElementId)
deriving DecidableEq, Repr

/-- The message of a page error. -/
def PageError.message : PageError → String
  | .malformed => "内容不是页面 JSON"
  | .repeatedElement id => s!"元素 id 重复: {id.number}"
  | .unknownElement position id => s!"脚本第 {position} 步引用了不存在的元素 {id.number}"

namespace Page

/-- The ids of the elements of a page, in order. -/
def ids (page : Page) : List ElementId := page.elements.map PageElement.id

/-- The first id of a list that comes a second time, given those before it. -/
def firstRepeat? (before : List ElementId) : List ElementId → Option ElementId
  | [] => none
  | id :: rest =>
    if before.contains id then some id else firstRepeat? (id :: before) rest

/-- The first step that speaks of an element without one of the given ids, as an
error; `position` is that of the first step. -/
def firstUnknown? (ids : List ElementId) (position : Nat) :
    List ScriptStep → Option PageError
  | [] => none
  | step :: rest =>
    match step.element? with
    | some id =>
      if ids.contains id then firstUnknown? ids (position + 1) rest
      else some (.unknownElement position id)
    | none => firstUnknown? ids (position + 1) rest

/-- What keeps a page from being replayed; a repeated id counts before an unknown
one. -/
def fault? (page : Page) : Option PageError :=
  match firstRepeat? [] page.ids with
  | some id => some (.repeatedElement id)
  | none => firstUnknown? page.ids 1 page.script

/-! ## Small laws -/

theorem firstRepeat?_eq_none_iff {before ids : List ElementId} :
    firstRepeat? before ids = none ↔ ids.Nodup ∧ ∀ id ∈ ids, id ∉ before := by
  induction ids generalizing before with
  | nil => simp [firstRepeat?]
  | cons id rest ih =>
    by_cases present : id ∈ before
    · simp [firstRepeat?, present]
    · simp only [firstRepeat?, List.contains_eq_mem, present, decide_false,
        Bool.false_eq_true, if_false, ih, List.mem_cons, not_or, List.nodup_cons,
        forall_eq_or_imp]
      grind

theorem firstUnknown?_eq_none_iff {ids : List ElementId} {position : Nat}
    {script : List ScriptStep} :
    firstUnknown? ids position script = none ↔
      ∀ step ∈ script, ∀ id ∈ step.element?, id ∈ ids := by
  induction script generalizing position with
  | nil => simp [firstUnknown?]
  | cons step rest ih =>
    cases spoken : step.element? with
    | none => simp [firstUnknown?, spoken, ih]
    | some id => by_cases known : id ∈ ids <;> simp [firstUnknown?, spoken, known, ih]

/-- A page can be replayed exactly if its ids are distinct and its script speaks
only of them. -/
theorem fault?_eq_none_iff {page : Page} :
    page.fault? = none ↔
      page.ids.Nodup ∧ ∀ step ∈ page.script, ∀ id ∈ step.element?, id ∈ page.ids := by
  unfold fault?
  cases found : firstRepeat? [] page.ids with
  | some id =>
    have repeated : ¬ page.ids.Nodup := fun distinct => by
      have none := firstRepeat?_eq_none_iff.mpr
        (⟨distinct, fun _ _ => List.not_mem_nil⟩ : _ ∧ ∀ id ∈ page.ids, id ∉ [])
      exact absurd (found.symm.trans none) nofun
    simp [repeated]
  | none =>
    have distinct := (firstRepeat?_eq_none_iff.mp found).1
    simp [distinct, firstUnknown?_eq_none_iff]

end Page

end Choreography
