import FluentHttp.Proofs.Api.Bodies
import FluentHttp.Proofs.Generated

/-!
# FluentHttp.Proofs.Closed

Generated code is closed: what a body refers to by a simple name is there.

A name that a body reads is a parameter, a local declared before, or in an instance member the field
that holds the builder. A method that it calls without a target is a method of the same class, or
the one that the entry class inherits from the library (`Session.isClosed_of_generated`). The
helpers that factories and setters call are emitted apart from these, and one of them only if a base
URL is declared, so this is a statement about the class as a whole.
-/

namespace FluentHttp

open Api Java

/-! ### Scopes -/

/-- The class declares the field that holds the builder, or it extends a wrapper base of the
generated package, from which it inherits that field. -/
def HasParam (config : Config) (generated : ClassDecl) : Prop :=
  (∃ field ∈ generated.fields, field.name = "param") ∨
    ∃ base args, generated.superclass = some (.named (config.qualified ("RxHttp" ++ base)) args)

/-- What a name can stand for in a member, beside locals: a parameter, or in an instance member the
field that holds the builder. -/
def NameInScope (config : Config) (generated : ClassDecl) (member : Java.Member) (name : String) :
    Prop :=
  name ∈ member.params.map (·.name) ∨
    name = "param" ∧ member.modifiers.isStatic = false ∧ HasParam config generated

/-- What a call without a target can be of: a method of the class, a static one in a static member,
or in an instance member the method that the entry class inherits. -/
def CallInScope (generated : ClassDecl) (member : Java.Member) (called : String) : Prop :=
  (∃ method ∈ generated.methods, method.name = called ∧
      (member.modifiers.isStatic = true → method.modifiers.isStatic = true)) ∨
    called = "asParser" ∧ member.modifiers.isStatic = false ∧
      generated.superclass = some (.named "rxhttp.BaseRxHttp" [])

/-- What the body of a member may mention if the class is closed. -/
def vocabularyOf (config : Config) (generated : ClassDecl) (member : Java.Member) : Vocabulary where
  names := NameInScope config generated member
  calls := CallInScope generated member
  types _ := True

/-- The names and the calls in the bodies of a class stand for something. -/
def IsClosed (config : Config) (generated : ClassDecl) : Prop :=
  ∀ member ∈ generated.members, BodyWithin (vocabularyOf config generated member) member.body

theorem nameInScope_of_mem (config : Config) (generated : ClassDecl) (member : Java.Member) :
    ∀ param ∈ member.params, (vocabularyOf config generated member).names param.name :=
  fun _ hparam => .inl (List.mem_map_of_mem hparam)

/-! ### Wrappers -/

/-- Every base of a wrapper is one of the generated package. -/
theorem hasParam_wrapper (config : Config) (decl : TypeDecl) :
    HasParam config (wrapper config decl) := by
  obtain ⟨args, hsuperclass, -⟩ := superclass_wrapper config decl
  exact .inr ⟨baseName decl, args, hsuperclass⟩

theorem isClosed_wrapper (config : Config) (decl : TypeDecl) :
    IsClosed config (wrapper config decl) := by
  intro member hmember
  have hkind := wrapperMember_of_mem hmember
  refine hkind.bodyWithin (nameInScope_of_mem _ _ _) ?_ trivial
  exact .inr ⟨rfl, hkind.isStatic, hasParam_wrapper config decl⟩

/-! ### The entry class -/

/-- The method that formats URLs is always there. -/
theorem formatMethod_mem_methods (config : Config) (registry : Registry) :
    formatMethod ∈ (entryOf config registry).methods := by
  rw [methods_entryOf]
  exact List.mem_append_left _ (List.mem_append_left _ List.mem_cons_self)

/-- The method that puts a base URL in front is there if a base URL is. -/
theorem addDomainMethod_mem_methods (config : Config) {registry : Registry}
    (h : registry.hasDomains = true) :
    addDomainMethod ∈ (entryOf config registry).methods := by
  have hmem : addDomainMethod ∈ fieldMembers registry := by
    rw [fieldMembers, if_pos h]
    exact List.mem_append_right _ (List.mem_singleton_self _)
  rw [methods_entryOf]
  exact List.mem_append_left _ (List.mem_append_right _ hmem)

theorem isClosed_entryOf (config : Config) (registry : Registry) :
    IsClosed config (entryOf config registry) := by
  intro member hmember
  have hfield : HasParam config (entryOf config registry) :=
    .inl ⟨_, List.mem_cons_self, rfl⟩
  rw [members_entryOf] at hmember
  rcases List.mem_cons.1 hmember with heq | hmethod
  · rw [heq]
    exact bodyWithin_entryConstructor (.inr ⟨rfl, rfl, hfield⟩)
  · refine (entryMethod_of_mem hmethod).bodyWithin (nameInScope_of_mem _ _ _) (fun _ => trivial)
      ?_ ?_ ?_
    · exact .inl ⟨formatMethod, formatMethod_mem_methods config registry, rfl, fun _ => rfl⟩
    · intro hdomains
      exact .inl ⟨addDomainMethod, addDomainMethod_mem_methods config hdomains, rfl, fun _ => rfl⟩
    · intro hinstance
      exact ⟨.inr ⟨rfl, hinstance, hfield⟩, .inr ⟨rfl, hinstance, rfl⟩, trivial⟩

/-! ### The extensions -/

theorem isClosed_extensionsOf (config : Config) (registry : Registry) :
    IsClosed config (extensionsOf config registry) := by
  intro member hmember
  rw [members_extensionsOf] at hmember
  rcases List.mem_cons.1 hmember with heq | hmethod
  · rw [heq]
    trivial
  · exact (extensionMethod_of_mem hmethod).bodyWithin (nameInScope_of_mem _ _ _)
      (fun _ => trivial) (fun _ _ => trivial)

/-! ### All classes -/

namespace Session

variable {session : Session} {round : Round} {classes : List ClassDecl}

/-- **Generated code is closed.** In every class that a round generates, each name that the body of
a member reads is a parameter, a local that an earlier statement declares, or the field that holds
the builder, and the latter only in instance members. Each method that a body calls without a target
is a method of the class, or the one that the entry class inherits. -/
theorem isClosed_of_generated (h : session.outcomeOf round = .generated classes) :
    ∀ generated ∈ classes, IsClosed session.config generated := by
  obtain ⟨-, heq⟩ := eq_classesOf_of_outcomeOf h
  intro generated hmem
  rw [heq, mem_classesOf_iff] at hmem
  rcases hmem with ⟨entry, -, hwrapper⟩ | hentry | hextensions
  · rw [hwrapper]
    exact isClosed_wrapper session.config entry.2
  · rw [hentry]
    exact isClosed_entryOf session.config round.registry
  · rw [hextensions]
    exact isClosed_extensionsOf session.config round.registry

theorem isClosed_of_generated_serviceRound :
    ∃ classes, ({} : Session).outcomeOf serviceRound = .generated classes ∧
      ∀ generated ∈ classes, IsClosed {} generated :=
  ⟨_, outcomeOf_serviceRound, isClosed_of_generated outcomeOf_serviceRound⟩

end Session

end FluentHttp
