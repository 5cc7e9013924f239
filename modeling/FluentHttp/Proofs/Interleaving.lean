import FluentHttp.Proofs.Contract
import FluentHttp.Proofs.Declaration.Supertypes
import Mathlib.Data.List.Nodup

/-!
# FluentHttp.Proofs.Interleaving

How the declarations of a round are interleaved does not matter. What counts is the order of the
declarations of each category by itself. Other classes are looked up by name, so only their presence
counts (`Session.process_eq_of_sameOrder`).
-/

namespace FluentHttp

/-! ### Lookup by name -/

/-- Among classes with different names, the declaration of a name is the one that bears it. -/
theorem find?_name_eq_some_iff {types : List TypeDecl} (hnodup : (types.map (·.name)).Nodup)
    {name : String} {decl : TypeDecl} :
    types.find? (·.name == name) = some decl ↔ decl ∈ types ∧ decl.name = name := by
  constructor
  · intro h
    exact ⟨List.mem_of_find?_eq_some h, by simpa using List.find?_some h⟩
  · rintro ⟨hmem, rfl⟩
    cases hfind : types.find? (·.name == decl.name) with
    | none =>
        have hne := List.find?_eq_none.1 hfind decl hmem
        simp at hne
    | some other =>
        have hname : other.name = decl.name := by simpa using List.find?_some hfind
        rw [List.inj_on_of_nodup_map hnodup (List.mem_of_find?_eq_some hfind) hmem hname]

theorem find?_name_eq_of_perm {types others : List TypeDecl} (hperm : types.Perm others)
    (hnodup : (types.map (·.name)).Nodup) (name : String) :
    types.find? (·.name == name) = others.find? (·.name == name) := by
  have hothers : (others.map (·.name)).Nodup := (hperm.map _).nodup_iff.1 hnodup
  ext decl
  rw [find?_name_eq_some_iff hnodup, find?_name_eq_some_iff hothers, hperm.mem_iff]

/-- The search for a marker does not depend on the order of the declarations. -/
theorem leadTo_eq_of_perm {types others : List TypeDecl} (hperm : types.Perm others)
    (hnodup : (types.map (·.name)).Nodup) (marker : LibraryType) (pending : List TypeExpr) :
    leadTo marker pending types = leadTo marker pending others := by
  have hfind := find?_name_eq_of_perm hperm hnodup
  have hleads (ref : ClassRef) : LeadsTo types marker ref ↔ LeadsTo others marker ref :=
    ⟨fun h => h.mono fun name _ _ hdecl => (hfind name).symm.trans hdecl,
      fun h => h.mono fun name _ _ hdecl => (hfind name).trans hdecl⟩
  rw [Bool.eq_iff_iff, leadTo_eq_true_iff, leadTo_eq_true_iff]
  simp only [hleads]

/-! ### Rounds that differ in the interleaving -/

namespace Round

/-- Two rounds have the same declarations, and those of each category in the same order. -/
structure SameOrder (round other : Round) : Prop where
  types : round.types.Perm other.types
  fields : round.fields.Perm other.fields
  annotatedTypes : ∀ category, round.annotatedTypes category = other.annotatedTypes category
  annotatedFields : ∀ category, round.annotatedFields category = other.annotatedFields category

variable {round other : Round}

theorem SameOrder.annotatedCount (h : round.SameOrder other) :
    round.annotatedCount = other.annotatedCount := by
  rw [Round.annotatedCount, Round.annotatedCount, h.types.countP_eq, h.fields.countP_eq]

theorem SameOrder.isEmpty (h : round.SameOrder other) : round.isEmpty = other.isEmpty := by
  rw [Round.isEmpty, Round.isEmpty, h.annotatedCount]

theorem SameOrder.note (h : round.SameOrder other) (config : Config) (number : Nat) :
    round.note config number = other.note config number := by
  rw [Round.note, Round.note, h.types.length_eq, h.fields.length_eq, h.annotatedCount]

/-- All chains of supertypes in one round are there in the other one. -/
structure SameChains (round other : Round) : Prop where
  decl : ∀ decl marker, round.declReaches decl marker = other.declReaches decl marker
  type : ∀ type marker, round.typeReaches type marker = other.typeReaches type marker

theorem SameOrder.sameChains (h : round.SameOrder other)
    (hnodup : (round.types.map (·.name)).Nodup) : round.SameChains other where
  decl decl marker := leadTo_eq_of_perm h.types hnodup marker decl.supertypes
  type type marker := leadTo_eq_of_perm h.types hnodup marker [type]

end Round

/-! ### What a round leads to -/

section Process

variable {round other : Round}

theorem acceptType_eq_of_sameChains (h : round.SameChains other) (config : Config)
    (category : Category) :
    acceptType config round category = acceptType config other category := by
  have hcontract (decl : TypeDecl) :
      Contract.ofType config round decl category = Contract.ofType config other decl category := by
    cases category <;> simp only [Contract.ofType, Contract.inherits, h.decl]
  funext registry decl
  unfold acceptType Contract.checkType
  rw [hcontract]

theorem acceptField_eq_of_sameChains (h : round.SameChains other)
    (hfields : round.annotatedFields .defaultDomain = other.annotatedFields .defaultDomain)
    (category : Category) : acceptField round category = acceptField other category := by
  have hcontract (field : FieldDecl) :
      Contract.ofField round field category = Contract.ofField other field category := by
    cases category <;> simp only [Contract.ofField, h.type]
  funext registry field
  unfold acceptField Contract.checkField
  rw [hcontract, hfields]

/-- A category is taken up from its own declarations. -/
theorem Intake.ofCategory_eq_of_sameOrder (horder : round.SameOrder other)
    (hchains : round.SameChains other) (config : Config) (registry : Registry)
    (category : Category) :
    ofCategory config round registry category = ofCategory config other registry category := by
  rw [ofCategory, ofCategory, horder.annotatedTypes, horder.annotatedFields,
    acceptType_eq_of_sameChains hchains,
    acceptField_eq_of_sameChains hchains (horder.annotatedFields _)]

theorem Round.outcome_eq_of_sameOrder (horder : round.SameOrder other)
    (hchains : round.SameChains other) (config : Config) :
    round.outcome config = other.outcome config := by
  have hsurvey : Survey.ofRound config round = Survey.ofRound config other :=
    Survey.ofCategories_congr (Intake.ofCategory_eq_of_sameOrder horder hchains config) {} _
  rw [outcome, outcome, hsurvey]

end Process

namespace Session

variable {round other : Round}

/-- **Interleaving does not matter.** Two rounds with the same declarations, whose classes have
different names and whose categories have their declarations in the same order, lead to the same
outcome with the same diagnostics, from the same session to the same session. -/
theorem process_eq_of_sameOrder (session : Session) (h : round.SameOrder other)
    (hnames : (round.types.map (·.name)).Nodup) :
    session.process round = session.process other := by
  have houtcome : session.outcome round = session.outcome other := by
    rw [outcome, outcome, h.isEmpty,
      Round.outcome_eq_of_sameOrder h (h.sameChains hnames) session.config]
  have hnotes : session.notes round = session.notes other := by
    rw [notes, notes, h.note]
  rw [process, process, houtcome, hnotes]

/-- A class between a builder and the library's own, which is not annotated. -/
def baseBuilder : TypeDecl :=
  { name := "com.example.BaseParam"
    modifiers := { isPublic := true, isAbstract := true }
    superclass := some (.ofLibrary .abstractParam []) }

/-- A builder whose chain of supertypes goes through such a class. -/
def derivedBuilder : TypeDecl :=
  { plainBuilder "com.example.DerivedParam" "derived" with
    superclass := some (.named "com.example.BaseParam" []) }

/-- A round with both, where the class comes before the builder. -/
def contextRound : Round :=
  { types := [baseBuilder, derivedBuilder, pageParser [tokenConstructor] (.variable "T")]
    fields :=
      [baseField "com.example.Service",
        { baseField "com.example.Shop" with annotation := some .defaultDomain }] }

/-- The same declarations the other way round. -/
def reversedRound : Round :=
  { types := contextRound.types.reverse
    fields := contextRound.fields.reverse }

theorem process_eq_of_sameOrder_contextRound :
    contextRound.SameOrder reversedRound ∧ (contextRound.types.map (·.name)).Nodup ∧
      ({} : Session).process contextRound = ({} : Session).process reversedRound := by
  have horder : contextRound.SameOrder reversedRound :=
    { types := (List.reverse_perm _).symm
      fields := (List.reverse_perm _).symm
      annotatedTypes := by intro category; cases category <;> decide
      annotatedFields := by intro category; cases category <;> decide }
  have hnames : (contextRound.types.map (·.name)).Nodup := by decide
  exact ⟨horder, hnames, process_eq_of_sameOrder {} horder hnames⟩

end Session

end FluentHttp
