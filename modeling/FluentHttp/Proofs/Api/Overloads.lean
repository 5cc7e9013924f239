import FluentHttp.Proofs.Api.Containers
import FluentHttp.Proofs.Api.Slots
import FluentHttp.Proofs.Contract
import Mathlib.Data.List.Nodup
import Mathlib.Data.Prod.Basic

/-!
# FluentHttp.Proofs.Api.Overloads

Which accessors of a parser are overloads of each other that cannot be told apart.

All accessors of a constructor take the same parameters, and they are told apart by the simple names
of the containers. Accessors of different constructors have the same names, and they are told apart
by the types of their parameters. Both can fail: a container can have an empty simple name, and two
constructors can be taken by parameters of the same types (`nodup_signature_iff`).
-/

namespace FluentHttp.Api

/-! ### Signatures -/

/-- What tells the methods of a class apart: the name and the types of the parameters. -/
def signature (member : Java.Member) : String × List TypeExpr :=
  (member.name, member.params.map (·.type))

/-- The types of the parameters of the accessors of a constructor. -/
def accessorTypes (decl : TypeDecl) (ctor : ConstructorDecl) : List TypeExpr :=
  slotTypes (slotsOf decl ctor)

/-- The names of the accessors of a constructor. -/
def accessorNames (name : String) (decl : TypeDecl) (containers : List ClassRef)
    (ctor : ConstructorDecl) : List String :=
  name :: if (slotsOf decl ctor).any (·.source.isToken) then
      containers.map fun container => name ++ container.simpleName
    else []

theorem map_signature_accessorsOf (observable name : String) (decl : TypeDecl)
    (product : TypeExpr) (containers : List ClassRef) (ctor : ConstructorDecl) :
    (accessorsOf observable name decl product containers ctor).map signature =
      (accessorNames name decl containers ctor).map (·, accessorTypes decl ctor) := by
  rw [accessorsOf, accessorNames]
  split
  · rw [List.map_cons, List.map_cons, List.map_map, List.map_map]
    rfl
  · rfl

/-! ### Accessors of one constructor -/

/-- Containers that do not clash have different simple names. -/
theorem nodup_simpleName_accessorContainers {decl : TypeDecl} {wrappers : List TypeExpr}
    (h : ¬AccessorsClash decl wrappers) :
    ((accessorContainers decl wrappers).map (·.simpleName)).Nodup := by
  rw [accessorContainers]
  by_cases hone : decl.typeParams.length = 1
  · rw [if_pos hone]
    exact nodup_map_simpleName_rawRefs fun hclash => h ⟨hone, hclash⟩
  · rw [if_neg hone]
    exact List.nodup_nil

/-- An accessor into a container has a name of its own unless the simple name of the container is
empty. -/
theorem nodup_accessorNames_iff {name : String} {decl : TypeDecl} {containers : List ClassRef}
    (h : (containers.map (·.simpleName)).Nodup) (ctor : ConstructorDecl) :
    (accessorNames name decl containers ctor).Nodup ↔
      ((slotsOf decl ctor).any (·.source.isToken) = true →
        ∀ container ∈ containers, container.simpleName ≠ "") := by
  have hnames : (containers.map fun container => name ++ container.simpleName).Nodup := by
    have hinj : Function.Injective (name ++ ·) := fun _ _ => (String.append_right_inj name).1
    have hmap := h.map hinj
    rwa [List.map_map] at hmap
  rw [accessorNames]
  split
  · next htokens =>
      simp [hnames, htokens]
  · next htokens => simp [htokens]

/-! ### Accessors of different constructors -/

/-- Accessors that may have the same name are told apart by the types. -/
theorem disjoint_map_iff {name : String} {names others : List String} {types types' : List TypeExpr}
    (hname : name ∈ names) (hother : name ∈ others) :
    (names.map (·, types)).Disjoint (others.map (·, types')) ↔ types ≠ types' := by
  constructor
  · rintro hdisjoint rfl
    exact hdisjoint (List.mem_map.2 ⟨name, hname, rfl⟩) (List.mem_map.2 ⟨name, hother, rfl⟩)
  · intro hne entry hentry hentry'
    obtain ⟨_, -, rfl⟩ := List.mem_map.1 hentry
    obtain ⟨_, -, heq⟩ := List.mem_map.1 hentry'
    exact hne (Prod.mk.inj heq).2.symm

section Accessors

variable {config : Config} {aliasName : String} {decl : TypeDecl} {wrappers : List TypeExpr}
  {members : List Java.Member}

/-- Only a parser with exactly one type parameter has containers. -/
theorem typeParams_ne_nil_of_accessorContainers {container : ClassRef}
    (h : container ∈ accessorContainers decl wrappers) : decl.typeParams ≠ [] := by
  rintro hnil
  rw [accessorContainers, hnil, if_neg (by decide)] at h
  cases h

/-- Accessors differ in their signatures exactly if those of one constructor differ in their names
and those of different ones in the types of their parameters. -/
theorem nodup_map_signature_iff
    (h : accessors config aliasName decl wrappers = .ok (some members)) :
    (members.map signature).Nodup ↔
      (decl.publicConstructors.map (accessorTypes decl)).Nodup ∧
        ∀ ctor ∈ decl.publicConstructors, (∃ param ∈ ctor.params, TakesToken param) →
          ∀ container ∈ accessorContainers decl wrappers, container.simpleName ≠ "" := by
  obtain ⟨hclash, observable, product, rfl⟩ := eq_flatMap_of_accessors h
  have hsimple := nodup_simpleName_accessorContainers hclash
  have hnames : ∀ ctor : ConstructorDecl,
      ((accessorNames ("as" ++ aliasName) decl (accessorContainers decl wrappers) ctor).map
        (·, accessorTypes decl ctor)).Nodup ↔
      ((∃ param ∈ ctor.params, TakesToken param) →
          ∀ container ∈ accessorContainers decl wrappers, container.simpleName ≠ "") := by
    intro ctor
    rw [List.nodup_map_iff (Prod.mk_left_injective _), nodup_accessorNames_iff hsimple]
    refine ⟨fun h htoken container hmem => h ?_ container hmem,
      fun h htoken container hmem => h ?_ container hmem⟩
    · exact (any_isToken_slots (typeParams_ne_nil_of_accessorContainers hmem) ctor.params).2 htoken
    · exact (any_isToken_slots (typeParams_ne_nil_of_accessorContainers hmem) ctor.params).1 htoken
  rw [List.map_flatMap, List.nodup_flatMap, and_comm, List.nodup_iff_pairwise_ne,
    List.pairwise_map]
  simp only [map_signature_accessorsOf, hnames]
  -- the accessors of any two constructors have the name without a container in common
  exact and_congr
    (List.Pairwise.iff fun _ _ => disjoint_map_iff List.mem_cons_self List.mem_cons_self) Iff.rfl

/-- Constructors that are told apart by the types of their parameters have accessors that are, if
they take no arrays of type tokens and no class tokens. -/
theorem nodup_map_accessorTypes
    (hpassable : ∀ ctor ∈ decl.publicConstructors, ∀ param ∈ ctor.params,
      IsPassable decl.typeParams param.type)
    (hnodup : (decl.publicConstructors.map fun ctor => ctor.params.map (·.type)).Nodup) :
    (decl.publicConstructors.map (accessorTypes decl)).Nodup := by
  rw [List.nodup_iff_pairwise_ne, List.pairwise_map] at hnodup ⊢
  refine hnodup.imp_of_mem ?_
  intro ctor other hctor hother hne heq
  exact hne (map_type_eq_of_slotTypes_eq (fun _ hmem => hmem) (hpassable ctor hctor)
    (hpassable other hother) heq)

/-- **When accessors can be told apart.** No two accessors of a parser have the same name and the
same types of parameters exactly if no two of its constructors are taken by parameters of the same
types and no container has an empty simple name. The former holds of constructors with different
types of parameters as long as these are no arrays of type tokens, no class tokens and no type
tokens with arguments. -/
theorem nodup_signature_iff (h : accessors config aliasName decl wrappers = .ok (some members)) :
    ((members.map signature).Nodup ↔
      (decl.publicConstructors.map (accessorTypes decl)).Nodup ∧
        ∀ ctor ∈ decl.publicConstructors, (∃ param ∈ ctor.params, TakesToken param) →
          ∀ container ∈ accessorContainers decl wrappers, container.simpleName ≠ "") ∧
    ((decl.publicConstructors.map fun ctor => ctor.params.map (·.type)).Nodup →
      (∀ ctor ∈ decl.publicConstructors, ∀ param ∈ ctor.params,
        IsPassable decl.typeParams param.type) →
      (∀ container ∈ accessorContainers decl wrappers, container.simpleName ≠ "") →
      (members.map signature).Nodup) := by
  refine ⟨nodup_map_signature_iff h, fun hnodup hpassable hnamed => ?_⟩
  exact (nodup_map_signature_iff h).2
    ⟨nodup_map_accessorTypes hpassable hnodup, fun _ _ _ => hnamed⟩

end Accessors

/-- A constructor for a page number and a type token. -/
def pagedConstructor : ConstructorDecl :=
  publicConstructor
    [{ name := "page", type := .primitive .int },
      { name := "type", type := .ofLibrary .reflectType [] }]

theorem nodup_signature_iff_pagedConstructor :
    ∃ members,
      accessors {} "Page" (pageParser [tokenConstructor, pagedConstructor] (.variable "T")) [] =
          .ok (some members) ∧
        (members.map signature).Nodup := by
  obtain ⟨members, hmembers⟩ : ∃ members,
      accessors {} "Page" (pageParser [tokenConstructor, pagedConstructor] (.variable "T")) [] =
        .ok (some members) :=
    ⟨_, accessors_of_not_clash rfl product?_pageParser not_accessorsClash_nil⟩
  have htoken : IsPassable [{ name := "T" }] (.ofLibrary .reflectType []) :=
    ⟨rfl, by decide, fun _ => rfl⟩
  have hint : IsPassable [{ name := "T" }] (.primitive .int) :=
    ⟨rfl, by decide, fun h => absurd h (by decide)⟩
  refine ⟨members, hmembers, (nodup_signature_iff hmembers).2 (by decide) ?_ (by decide)⟩
  intro ctor hctor param hparam
  rcases List.mem_pair.1 hctor with rfl | rfl
  · obtain rfl := List.mem_singleton.1 hparam
    exact htoken
  · rcases List.mem_pair.1 hparam with rfl | rfl
    · exact hint
    · exact htoken

/-- A parser with a constructor for its type token and one for an array of type tokens. -/
def twinParser : TypeDecl :=
  pageParser
    [tokenConstructor,
      publicConstructor [{ name := "types", type := .array (.ofLibrary .reflectType []) }]]
    (.variable "T")

/-- The accessors for a type token and for an array of type tokens both take a class token. -/
theorem not_nodup_signature_twinParser :
    Contract.checkType {} { types := [twinParser] } .parser twinParser = .ok () ∧
      (twinParser.typeParams.map (·.name)).Nodup ∧
      (twinParser.publicConstructors.map fun ctor => ctor.params.map (·.type)).Nodup ∧
      containers twinParser [] = .ok [.ofLibrary .list []] ∧
      ∃ members, accessors {} "Page" twinParser [] = .ok (some members) ∧
        ¬(members.map signature).Nodup := by
  have htypes : ¬(twinParser.publicConstructors.map (accessorTypes twinParser)).Nodup := by
    have htwins : twinParser.publicConstructors.map (accessorTypes twinParser) =
        [[classToken { name := "T" }], [classToken { name := "T" }]] := rfl
    simp [htwins]
  obtain ⟨members, hmembers⟩ : ∃ members,
      accessors {} "Page" twinParser [] = .ok (some members) :=
    ⟨_, accessors_of_not_clash rfl product?_pageParser not_accessorsClash_nil⟩
  refine ⟨Contract.checkType_pageParser _ _ (by decide), by decide, by decide, rfl, members,
    hmembers, fun hnodup => ?_⟩
  exact htypes ((nodup_map_signature_iff hmembers).1 hnodup).1

end FluentHttp.Api
