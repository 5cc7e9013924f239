import FluentHttp.Proofs.Java.Meaning
import FluentHttp.Proofs.Origin

/-!
# FluentHttp.Proofs.Denotation

What the names of classes in generated source text denote.

All classes that generated code mentions have a package if those of the round do, so each of them is
denoted by the name that is printed for it unless it is shadowed
(`Session.denotes_of_generated`). The entry class has the type variables `P` and `R`, so a builder
of one of these names is shadowed in its own factories.
-/

namespace FluentHttp

open Api Java

/-! ### Classes -/

/-- In the source text of a class, the name of another class denotes that class unless it is
shadowed. -/
structure Java.ClassDecl.Denotes (decl : ClassDecl) : Prop extends decl.WrittenInParts where
  meaning_naming_iff : ∀ part ∈ decl.parts, ∀ name ∈ part.classNames,
    decl.meaning part.typeVariables (decl.naming name) = .classNamed name ↔
      ¬decl.Shadowed part.typeVariables name

theorem Java.ClassDecl.denotes {decl : ClassDecl} (h : ∀ name ∈ decl.classNames, HasPackage name) :
    decl.Denotes where
  toWrittenInParts := writtenInParts decl
  meaning_naming_iff := by
    intro part hpart name hname
    have hmem := classNames_subset_of_mem_parts hpart hname
    exact ClassDecl.meaning_naming_iff (h name hmem) hmem part.typeVariables

/-! ### Rounds -/

theorem hasPackage_of_mem_suppliedNames {name : String} (h : name ∈ suppliedNames) :
    HasPackage name := by
  have hall : suppliedNames.all fun name => decide (HasPackage name) := by decide +kernel
  exact of_decide_eq_true (List.all_eq_true.1 hall name h)

/-- Generated classes have a package if the configured one is not empty. -/
theorem Origin.hasPackage {config : Config} {round : Round} {name : String}
    (h : Origin config round name) (hpackage : config.package ≠ "")
    (hround : ∀ name ∈ round.classNames, HasPackage name) : HasPackage name := by
  cases h with
  | declared hmem => exact hround _ hmem
  | generated name => exact hasPackage_append hpackage _
  | supplied hmem => exact hasPackage_of_mem_suppliedNames hmem

namespace Session

variable {session : Session} {round : Round} {classes : List ClassDecl}

/-- **What generated names denote.** Let a round in which all classes have a package generate
classes in a package. Then in the source text of each of them, what is printed for a class denotes
that class exactly if it is not shadowed: if it is printed in full, or else its simple name is not
that of a type variable in scope, nor, if it is a class of `java.lang`, that of a class of the
generated package that is mentioned too. -/
theorem denotes_of_generated (h : session.outcomeOf round = .generated classes)
    (hpackage : session.config.package ≠ "")
    (hround : ∀ name ∈ round.classNames, HasPackage name) :
    ∀ generated ∈ classes, generated.Denotes :=
  fun generated hmem => ClassDecl.denotes fun name hname =>
    (origin_of_generated h hpackage generated hmem name hname).hasPackage hpackage hround

theorem denotes_of_generated_serviceRound :
    (∀ name ∈ serviceRound.classNames, HasPackage name) ∧
      ∃ classes, ({} : Session).outcomeOf serviceRound = .generated classes ∧
        ∀ generated ∈ classes, generated.Denotes := by
  have hpackages : serviceRound.classNames.all fun name => decide (HasPackage name) := by
    decide +kernel
  have hround : ∀ name ∈ serviceRound.classNames, HasPackage name := fun name hname =>
    of_decide_eq_true (List.all_eq_true.1 hpackages name hname)
  exact ⟨hround, _, outcomeOf_serviceRound,
    denotes_of_generated outcomeOf_serviceRound (by decide) hround⟩

/-- A round with a builder `P`, which is also the name of a type variable of the entry class. -/
def capturedRound : Round :=
  { types := [{ plainBuilder "com.example.P" "get" with
      members := [.constructor (publicConstructor [])] }] }

theorem outcomeOf_capturedRound :
    ({} : Session).outcomeOf capturedRound = .generated (classesOf {} capturedRound.registry) := by
  have hfailures : capturedRound.failures {} = [] := by
    refine Round.failures_eq_nil_of_no_fields rfl ?_
    intro decl hdecl category hcategory
    obtain rfl := List.mem_singleton.1 hdecl
    obtain rfl := Option.some.inj hcategory
    exact capturedRound.typeError?_param_eq_none rfl rfl rfl rfl rfl (by decide)
  exact outcomeOf_of_not_clashes {} hfailures
    (not_clashes_of_no_wrappers (by decide) (by decide))

/-- The factory of this builder makes an object of the builder, but there `P` denotes the type
variable. -/
theorem meaning_capturedRound :
    (∀ name ∈ capturedRound.classNames, isQualified name ∧ '$' ∉ name.toList) ∧
      ∃ classes, ({} : Session).outcomeOf capturedRound = .generated classes ∧
        ∃ generated ∈ classes, ∃ part ∈ generated.parts, "com.example.P" ∈ part.classNames ∧
          generated.naming "com.example.P" = "P" ∧
          generated.meaning part.typeVariables "P" = .typeVariable "P" := by
  have hnames : capturedRound.classNames.all fun name =>
      isQualified name && !name.toList.contains '$' := by
    decide +kernel
  have hcaptured : (classesOf {} capturedRound.registry).any fun generated =>
      generated.parts.any fun part => part.classNames.contains "com.example.P" &&
        decide (generated.naming "com.example.P" = "P" ∧
          generated.meaning part.typeVariables "P" = .typeVariable "P") := by
    decide +kernel
  refine ⟨fun name hname => ?_, _, outcomeOf_capturedRound, ?_⟩
  · simpa using List.all_eq_true.1 hnames name hname
  · obtain ⟨generated, hgenerated, hpart⟩ := List.any_eq_true.1 hcaptured
    obtain ⟨part, hpart, htests⟩ := List.any_eq_true.1 hpart
    obtain ⟨hmentioned, hmeaning⟩ := Bool.and_eq_true_iff.1 htests
    exact ⟨generated, hgenerated, part, hpart, by simpa using hmentioned,
      of_decide_eq_true hmeaning⟩

end Session

end FluentHttp
