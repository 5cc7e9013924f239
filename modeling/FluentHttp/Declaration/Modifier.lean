/-!
# FluentHttp.Declaration.Modifier

Modifiers and sets of them. A set is listed in one fixed order whatever the order in which its
modifiers were added.
-/

namespace FluentHttp

/-- A modifier of a declaration. -/
inductive Modifier where
  | «public» | «protected» | «private» | abstract | static | final
  deriving DecidableEq, Repr

namespace Modifier

/-- All modifiers, in the order in which they are listed. -/
def all : List Modifier :=
  [.public, .protected, .private, .abstract, .static, .final]

/-- The keyword of a modifier. -/
def keyword : Modifier → String
  | .public => "public"
  | .protected => "protected"
  | .private => "private"
  | .abstract => "abstract"
  | .static => "static"
  | .final => "final"

/-- The modifier of a keyword. -/
def ofKeyword? (word : String) : Option Modifier :=
  all.find? (·.keyword == word)

end Modifier

/-- A set of modifiers. -/
structure Modifiers where
  isPublic : Bool := false
  isProtected : Bool := false
  isPrivate : Bool := false
  isAbstract : Bool := false
  isStatic : Bool := false
  isFinal : Bool := false
  deriving DecidableEq, Repr, Inhabited

namespace Modifiers

/-- The set without modifiers. -/
def empty : Modifiers := {}

/-- Whether a modifier belongs to the set. -/
def contains (set : Modifiers) : Modifier → Bool
  | .public => set.isPublic
  | .protected => set.isProtected
  | .private => set.isPrivate
  | .abstract => set.isAbstract
  | .static => set.isStatic
  | .final => set.isFinal

/-- The set with the membership of one modifier changed. -/
def put (set : Modifiers) (member : Bool) : Modifier → Modifiers
  | .public => { set with isPublic := member }
  | .protected => { set with isProtected := member }
  | .private => { set with isPrivate := member }
  | .abstract => { set with isAbstract := member }
  | .static => { set with isStatic := member }
  | .final => { set with isFinal := member }

/-- The set with a modifier added. -/
def insert (set : Modifiers) (modifier : Modifier) : Modifiers :=
  set.put true modifier

/-- The set with a modifier taken away. -/
def erase (set : Modifiers) (modifier : Modifier) : Modifiers :=
  set.put false modifier

/-- The set of the modifiers in a list. -/
def ofList (modifiers : List Modifier) : Modifiers :=
  modifiers.foldl insert empty

/-- The modifiers of the set, in their fixed order. -/
def toList (set : Modifiers) : List Modifier :=
  Modifier.all.filter set.contains

/-- Whether the set has no modifiers. -/
def isEmpty (set : Modifiers) : Bool :=
  set.toList.isEmpty

/-- Neither public nor private, so that a subclass may use the declaration and others may not. -/
def isRestricted (set : Modifiers) : Bool :=
  !set.isPublic && !set.isPrivate

/-- The keywords of the set, separated by blanks. -/
def text (set : Modifiers) : String :=
  " ".intercalate (set.toList.map Modifier.keyword)

/-- A modifier belongs to a changed set if it was made a member, or if it did and another one was
changed. -/
@[simp] theorem contains_put (set : Modifiers) (member : Bool) (m n : Modifier) :
    (set.put member m).contains n = if n = m then member else set.contains n := by
  cases m <;> cases n <;> rfl

/-- Two sets with the same modifiers are equal. -/
theorem ext_contains {s t : Modifiers} (h : ∀ m, s.contains m = t.contains m) : s = t := by
  have h₁ := h .public
  have h₂ := h .protected
  have h₃ := h .private
  have h₄ := h .abstract
  have h₅ := h .static
  have h₆ := h .final
  cases s
  cases t
  simp_all [contains]

theorem contains_foldl_insert (modifiers : List Modifier) (set : Modifiers) (m : Modifier) :
    (modifiers.foldl insert set).contains m = (set.contains m || decide (m ∈ modifiers)) := by
  induction modifiers generalizing set with
  | nil => simp
  | cons n rest ih =>
      rw [List.foldl_cons, ih, insert, contains_put]
      by_cases h : m = n <;> simp [h]

/-- A set is made up of the modifiers that it lists. -/
theorem ofList_toList (set : Modifiers) : ofList set.toList = set := by
  refine ext_contains fun m => ?_
  have hall : m ∈ Modifier.all := by cases m <;> decide
  have hempty : empty.contains m = false := by cases m <;> rfl
  rw [ofList, contains_foldl_insert, hempty, Bool.false_or]
  simp [toList, hall]

end Modifiers

end FluentHttp
