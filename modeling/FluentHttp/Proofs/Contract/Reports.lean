import FluentHttp.Contract
import Mathlib.Data.List.Forall2
import Std.Data.String.ToNat

/-!
# FluentHttp.Proofs.Contract.Reports

What the report of a broken contract tells.

A report is about the declaration that breaks the contract, and its message says of which category
the declaration is and which rule it breaks (`Diagnostic.Describes`). The messages about different
rules start differently (`Violation.message_injective`), so the error can be read off its report
(`Diagnostic.describes_rightUnique`).
-/

namespace FluentHttp

/-! ### Messages about rules -/

namespace Violation

/-- What the messages about each sort of violation start with, before anything that depends on the
declaration. -/
def openings : List String :=
  ["is not public", "is abstract", "must inherit from ", "declares", "must declare a protected",
    "no-argument", "must declare a '", "is not static", "is a ", "is not an", "has", "is one of ",
    "carries an annotation that only applies to a "]

theorem exists_opening (violation : Violation) : ∃ opening,
    openings[violation.ctorIdx]? = some opening ∧
      opening.toList <+: violation.message.toList := by
  have hstart (opening middle rest : String) :
      opening.toList <+: (opening ++ middle ++ rest).toList := by
    rw [String.append_assoc, String.toList_append]
    exact List.prefix_append _ _
  cases violation
  case missingMarker marker => exact ⟨_, rfl, marker.toList, String.toList_append.symm⟩
  case misplaced expected => exact ⟨_, rfl, expected.toList, String.toList_append.symm⟩
  case missingTypeTokenConstructor signature => exact ⟨_, rfl, hstart _ signature _⟩
  case wrongClientType found => exact ⟨_, rfl, hstart _ found _⟩
  case duplicateDefaultDomain count => exact ⟨_, rfl, hstart _ (toString count) _⟩
  -- All other messages are the same for all declarations.
  all_goals exact ⟨_, rfl, by decide +kernel⟩

theorem openings_apart : openings.Pairwise fun first second =>
    ¬first.toList <+: second.toList ∧ ¬second.toList <+: first.toList := by
  decide +kernel

/-- Messages of one wording are about one sort of violation, as no opening starts another. -/
theorem ctorIdx_eq_of_message_eq {first second : Violation} (h : first.message = second.message) :
    first.ctorIdx = second.ctorIdx := by
  obtain ⟨opening, hfirst, hstart⟩ := first.exists_opening
  obtain ⟨other, hsecond, hother⟩ := second.exists_opening
  obtain ⟨hi, rfl⟩ := List.getElem?_eq_some_iff.1 hfirst
  obtain ⟨hj, rfl⟩ := List.getElem?_eq_some_iff.1 hsecond
  have happart := List.pairwise_iff_getElem.1 openings_apart
  have hprefix := List.prefix_or_prefix_of_prefix (h ▸ hstart) hother
  rcases Nat.lt_trichotomy first.ctorIdx second.ctorIdx with hlt | heq | hlt
  · exact absurd hprefix (not_or.2 (happart _ _ hi hj hlt))
  · exact heq
  · exact absurd hprefix.symm (not_or.2 (happart _ _ hj hi hlt))

/-- The message about a violation tells the violation. -/
theorem message_injective : Function.Injective message := by
  intro first second h
  have hsort := ctorIdx_eq_of_message_eq h
  cases first <;> cases second
  case missingMarker.missingMarker => exact congrArg _ ((String.append_right_inj _).1 h)
  case misplaced.misplaced => exact congrArg _ ((String.append_right_inj _).1 h)
  case missingTypeTokenConstructor.missingTypeTokenConstructor =>
    exact congrArg _ ((String.append_right_inj _).1 ((String.append_left_inj _).1 h))
  case wrongClientType.wrongClientType =>
    exact congrArg _ ((String.append_right_inj _).1 ((String.append_left_inj _).1 h))
  case duplicateDefaultDomain.duplicateDefaultDomain =>
    exact congrArg _
      (Nat.repr_inj.1 ((String.append_right_inj _).1 ((String.append_left_inj _).1 h)))
  all_goals first | rfl | cases hsort

end Violation

/-! ### Reports -/

/-- A diagnostic reports a contract error: it is an error about the declaration, and its message
names the category and the declaration and says which rule is broken. -/
structure Diagnostic.Describes (diagnostic : Diagnostic) (error : ContractError) : Prop where
  severity_eq : diagnostic.severity = .error
  declaration_eq : diagnostic.declaration = some error.declaration
  message_eq : diagnostic.message =
    "@" ++ error.category.name ++ " " ++ error.declaration ++ " " ++ error.violation.message

theorem ContractError.forall₂_describes (errors : List ContractError) :
    List.Forall₂ Diagnostic.Describes (errors.map (·.toDiagnostic)) errors := by
  rw [List.forall₂_map_left_iff, List.forall₂_same]
  exact fun _ _ => ⟨rfl, rfl, rfl⟩

/-- There is one way to report an error. -/
theorem Diagnostic.Describes.eq {diagnostic : Diagnostic} {error : ContractError}
    (h : diagnostic.Describes error) : diagnostic = error.toDiagnostic := by
  obtain ⟨severity, declaration, message⟩ := diagnostic
  obtain ⟨rfl, rfl, rfl⟩ := h
  rfl

/-- The name of a category holds no blank, so it ends where the next blank is. -/
theorem Category.eq_of_append_eq {first second : Category} {rest other : String}
    (h : first.name ++ (" " ++ rest) = second.name ++ (" " ++ other)) :
    first = second ∧ rest = other := by
  have hname (category : Category) (behind : String) :
      (category.name ++ (" " ++ behind)).toList.takeWhile (· != ' ') = category.name.toList := by
    rw [String.toList_append, String.toList_append]
    cases category <;> rfl
  have hread (category : Category) : ofName? category.name = some category := by
    cases category <;> decide
  have hnames : first.name = second.name :=
    String.toList_injective ((hname first rest).symm.trans (h ▸ hname second other))
  obtain rfl := Option.some.inj ((hread first).symm.trans (hnames ▸ hread second))
  exact ⟨rfl, (String.append_right_inj _).1 ((String.append_right_inj _).1 h)⟩

/-- A diagnostic reports one contract error at most. -/
theorem Diagnostic.describes_rightUnique : Relator.RightUnique Diagnostic.Describes := by
  rintro diagnostic ⟨category, declaration, violation⟩ ⟨otherCategory, _, otherViolation⟩ h h'
  obtain rfl := Option.some.inj (h.declaration_eq.symm.trans h'.declaration_eq)
  have hmessage := h.message_eq.symm.trans h'.message_eq
  simp only [String.append_assoc, String.append_right_inj] at hmessage
  obtain ⟨rfl, hrest⟩ := Category.eq_of_append_eq hmessage
  simp only [String.append_right_inj] at hrest
  obtain rfl := Violation.message_injective hrest
  rfl

end FluentHttp
