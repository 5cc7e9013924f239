import FluentHttp.Api.Accessor
import FluentHttp.Proofs.Registry
import Mathlib.Data.List.Nodup

/-!
# FluentHttp.Proofs.Api.Containers

The containers of a parser are lists and the classes among its wrappers, each of them once, unless
two different ones have the same simple name (`containers_eq_ok_iff`,
`containers_refused_or_listed`). Accessors are made unless there are such containers and something
to make of them (`exists_accessors_eq_ok_iff`).
-/

namespace FluentHttp.Api

/-! ### Clashes -/

/-- The classes that containers are made of: lists, then the wrappers that are classes. -/
def containerNames (wrappers : List TypeExpr) : List String :=
  LibraryType.list.qualifiedName :: wrappers.filterMap fun wrapper => wrapper.class?.map (·.name)

/-- Two different classes have the same simple name. -/
def NamesClash (names : List String) : Prop :=
  ∃ first ∈ names, ∃ second ∈ names, first ≠ second ∧ simpleName first = simpleName second

/-- A class whose simple name is new clashes with no other. -/
theorem not_namesClash_concat {names : List String} {name : String} (h : ¬NamesClash names)
    (hnew : ∀ other ∈ names, simpleName other ≠ simpleName name) :
    ¬NamesClash (names ++ [name]) := by
  rintro ⟨first, hfirst, second, hsecond, hne, heq⟩
  simp only [List.mem_append, List.mem_singleton] at hfirst hsecond
  rcases hfirst with hfirst | rfl <;> rcases hsecond with hsecond | rfl
  · exact h ⟨first, hfirst, second, hsecond, hne, heq⟩
  · exact hnew first hfirst heq
  · exact hnew second hsecond heq.symm
  · exact hne rfl

/-- A class that is there already makes no clash. -/
theorem namesClash_concat_of_mem {names : List String} {name : String} (h : name ∈ names) :
    NamesClash (names ++ [name]) ↔ NamesClash names := by
  have hmem : ∀ other, other ∈ names ++ [name] ↔ other ∈ names := by
    intro other
    simp only [List.mem_append, List.mem_singleton, or_iff_left_iff_imp]
    rintro rfl
    exact h
  simp [NamesClash, hmem]

theorem NamesClash.concat {names : List String} (h : NamesClash names) (name : String) :
    NamesClash (names ++ [name]) := by
  obtain ⟨first, hfirst, second, hsecond, hne, heq⟩ := h
  exact ⟨first, by simp [hfirst], second, by simp [hsecond], hne, heq⟩

/-! ### Containers -/

/-- Lists alone do not clash. -/
theorem not_namesClash_containerNames_nil : ¬NamesClash (containerNames []) := by
  simp [containerNames, NamesClash]

/-- The raw reference to a class. -/
def rawRef (name : String) : ClassRef :=
  { name }

/-- The raw references to classes, each class once. -/
def rawRefs (names : List String) : List ClassRef :=
  names.eraseDups.map rawRef

theorem rawRefs_concat (names : List String) (name : String) :
    rawRefs (names ++ [name]) =
      if name ∈ names then rawRefs names else rawRefs names ++ [rawRef name] := by
  rw [rawRefs, eraseDups_concat]
  split
  · rfl
  · simp [rawRefs]

theorem map_name_rawRefs (names : List String) : (rawRefs names).map (·.name) = names.eraseDups := by
  rw [rawRefs, List.map_map]
  exact List.map_id _

theorem name_mem_of_mem_rawRefs {names : List String} {ref : ClassRef} (h : ref ∈ rawRefs names) :
    ref.name ∈ names := by
  have hname : ref.name ∈ (rawRefs names).map (·.name) := List.mem_map_of_mem h
  rwa [map_name_rawRefs, List.mem_eraseDups] at hname

/-- A container of the given simple name is a class among the given ones. -/
theorem find?_rawRefs (names : List String) (simple : String) :
    (rawRefs names).find? (·.simpleName == simple) =
      (names.eraseDups.find? (simpleName · == simple)).map rawRef := by
  rw [rawRefs, List.find?_map]
  rfl

/-- The containers are those of the given classes, or else these clash. -/
def Collects (names : List String) (result : Except ApiError (List ClassRef)) : Prop :=
  (NamesClash names ∧ ∃ error, result = .error error) ∨
    (¬NamesClash names ∧ result = .ok (rawRefs names))

/-- A wrapper adds its class to the containers, if it is a class. -/
theorem collects_addContainer (parser : String) {names : List String} (h : ¬NamesClash names)
    (wrapper : TypeExpr) :
    Collects (names ++ (wrapper.class?.map (·.name)).toList)
      (addContainer parser (rawRefs names) wrapper) := by
  rw [addContainer]
  cases hclass : wrapper.class? with
  | none => exact .inr ⟨by simpa using h, by simp⟩
  | some ref =>
      dsimp only [Option.map_some, Option.toList_some]
      rw [find?_rawRefs]
      cases hfound : names.eraseDups.find? (simpleName · == ref.simpleName) with
      | none =>
          have hnew : ∀ other ∈ names, simpleName other ≠ simpleName ref.name := by
            intro other hother
            have hne := List.find?_eq_none.1 hfound other (List.mem_eraseDups.2 hother)
            simpa [ClassRef.simpleName] using hne
          have hfresh : ref.name ∉ names := fun hmem => hnew _ hmem rfl
          refine .inr ⟨not_namesClash_concat h hnew, ?_⟩
          rw [rawRefs_concat, if_neg hfresh]
          rfl
      | some existing =>
          have hexisting : existing ∈ names :=
            List.mem_eraseDups.1 (List.mem_of_find?_eq_some hfound)
          have heq : simpleName existing = simpleName ref.name := by
            simpa [ClassRef.simpleName] using List.find?_some hfound
          dsimp only [Option.map_some, rawRef]
          by_cases hsame : existing = ref.name
          · subst hsame
            rw [if_pos rfl]
            refine .inr ⟨(namesClash_concat_of_mem hexisting).not.2 h, ?_⟩
            rw [rawRefs_concat, if_pos hexisting]
          · rw [if_neg hsame]
            exact .inl ⟨⟨existing, by simp [hexisting], ref.name, by simp, hsame, heq⟩, _, rfl⟩

/-- One more wrapper is one more class, or none. -/
theorem containerNames_concat (wrappers : List TypeExpr) (wrapper : TypeExpr) :
    containerNames (wrappers ++ [wrapper]) =
      containerNames wrappers ++ (wrapper.class?.map (·.name)).toList := by
  cases hclass : wrapper.class? <;> simp [containerNames, hclass]

theorem collects_containers (decl : TypeDecl) (wrappers : List TypeExpr) :
    Collects (containerNames wrappers) (containers decl wrappers) := by
  induction wrappers using List.reverseRecOn with
  | nil => exact .inr ⟨not_namesClash_containerNames_nil, rfl⟩
  | append_singleton wrappers wrapper ih =>
      rw [containerNames_concat, containers, List.foldlM_append]
      rw [containers] at ih
      rcases ih with ⟨hclash, error, herror⟩ | ⟨hclear, hok⟩
      · -- what has clashed stays an error
        rw [herror]
        refine .inl ⟨?_, error, rfl⟩
        cases wrapper.class? with
        | none => simpa using hclash
        | some ref => exact hclash.concat ref.name
      · rw [hok]
        change Collects _
          (addContainer decl.name (rawRefs (containerNames wrappers)) wrapper >>= pure)
        rw [bind_pure]
        exact collects_addContainer decl.name hclear wrapper

/-- The containers of a parser are lists and the classes among its wrappers, each of them once. They
are refused exactly if two different ones have the same simple name. -/
theorem containers_eq_ok_iff {decl : TypeDecl} {wrappers : List TypeExpr}
    {refs : List ClassRef} :
    containers decl wrappers = .ok refs ↔
      ¬NamesClash (containerNames wrappers) ∧ refs = rawRefs (containerNames wrappers) := by
  rcases collects_containers decl wrappers with ⟨hclash, error, herror⟩ | ⟨hclear, hok⟩
  · simp [herror, hclash]
  · simp [hok, hclear, eq_comm]

/-- The wrapper at which containers are refused is a class other than the container that has its
simple name already. -/
theorem exists_of_addContainer_eq_error {parser : String} {refs : List ClassRef}
    {wrapper : TypeExpr} {error : ApiError} (h : addContainer parser refs wrapper = .error error) :
    ∃ ref, wrapper.class? = some ref ∧ ∃ existing ∈ refs,
      existing.name ≠ ref.name ∧ existing.simpleName = ref.simpleName ∧
        error = .containerClash parser existing.name ref.name ref.simpleName := by
  unfold addContainer at h
  split at h
  · cases h
  · next ref hclass =>
      split at h
      · cases h
      · next existing hfound =>
          split at h
          · cases h
          · next hne =>
              have hsimple : existing.simpleName = ref.simpleName := by
                simpa using List.find?_some hfound
              exact ⟨ref, hclass, existing, List.mem_of_find?_eq_some hfound, hne, hsimple,
                (Except.error.inj h).symm⟩

/-- Refused containers are reported with the parser and with two classes that clash. -/
theorem exists_clash_of_containers_eq_error {decl : TypeDecl} {wrappers : List TypeExpr}
    {error : ApiError} (h : containers decl wrappers = .error error) :
    ∃ first ∈ containerNames wrappers, ∃ second ∈ containerNames wrappers,
      first ≠ second ∧ simpleName first = simpleName second ∧
        error = .containerClash decl.name first second (simpleName second) := by
  induction wrappers using List.reverseRecOn with
  | nil => cases h
  | append_singleton wrappers wrapper ih =>
      rw [containerNames_concat]
      rw [containers, List.foldlM_append, ← containers] at h
      cases hbefore : containers decl wrappers with
      | error earlier =>
          rw [hbefore] at h
          obtain rfl := Except.error.inj h
          obtain ⟨first, hfirst, second, hsecond, hclash⟩ := ih hbefore
          exact ⟨first, List.mem_append_left _ hfirst, second, List.mem_append_left _ hsecond,
            hclash⟩
      | ok refs =>
          rw [hbefore] at h
          change addContainer decl.name refs wrapper >>= pure = .error error at h
          rw [bind_pure] at h
          obtain ⟨ref, hclass, existing, hexisting, hne, hsimple, rfl⟩ :=
            exists_of_addContainer_eq_error h
          obtain ⟨-, rfl⟩ := containers_eq_ok_iff.1 hbefore
          have hmem : existing.name ∈ containerNames wrappers := name_mem_of_mem_rawRefs hexisting
          exact ⟨existing.name, List.mem_append_left _ hmem, ref.name, by simp [hclass], hne,
            hsimple, rfl⟩

/-- References that list classes: raw ones, each class once, in the order in which the classes first
come up. -/
structure ListsOnce (names : List String) (refs : List ClassRef) : Prop where
  raw : ∀ ref ∈ refs, ref.args = []
  mem_iff : ∀ name, name ∈ refs.map (·.name) ↔ name ∈ names
  nodup : (refs.map (·.name)).Nodup
  ordered : (refs.map (·.name)).Pairwise fun first second =>
    names.idxOf first < names.idxOf second

theorem listsOnce_rawRefs (names : List String) : ListsOnce names (rawRefs names) := by
  have hnames : (rawRefs names).map (·.name) = names.eraseDups := map_name_rawRefs names
  refine ⟨?_, fun name => ?_, ?_, ?_⟩
  · intro ref href
    obtain ⟨_, -, rfl⟩ := List.mem_map.1 href
    rfl
  · rw [hnames, List.mem_eraseDups]
  · rw [hnames]
    exact nodup_eraseDups names
  · rw [hnames]
    exact pairwise_idxOf_eraseDups names

/-- Classes that do not clash have different simple names. -/
theorem nodup_map_simpleName_rawRefs {names : List String} (h : ¬NamesClash names) :
    ((rawRefs names).map (·.simpleName)).Nodup := by
  rw [rawRefs, List.map_map]
  refine (nodup_eraseDups _).map_on ?_
  intro first hfirst second hsecond heq
  rw [List.mem_eraseDups] at hfirst hsecond
  by_contra hne
  exact h ⟨first, hfirst, second, hsecond, hne, heq⟩

/-- **The containers of a parser.** They are refused exactly if two different classes among lists and
the wrappers have the same simple name, and the error names the parser and two such classes.
Otherwise the containers are lists and then the classes of the wrappers, each class once and without
type arguments, in the order in which the classes first come up, and their simple names are
different. -/
theorem containers_refused_or_listed (decl : TypeDecl) (wrappers : List TypeExpr) :
    ((∃ error, containers decl wrappers = .error error) ↔
      NamesClash (containerNames wrappers)) ∧
    (∀ error, containers decl wrappers = .error error →
      ∃ first ∈ containerNames wrappers, ∃ second ∈ containerNames wrappers,
        first ≠ second ∧ simpleName first = simpleName second ∧
          error = .containerClash decl.name first second (simpleName second)) ∧
    (¬NamesClash (containerNames wrappers) →
      ∃ refs, containers decl wrappers = .ok refs ∧
        refs.head? = some (.ofLibrary .list []) ∧
        ListsOnce (containerNames wrappers) refs ∧
        (refs.map (·.simpleName)).Nodup) := by
  refine ⟨?_, fun _ => exists_clash_of_containers_eq_error, fun hclear => ?_⟩
  · rcases collects_containers decl wrappers with ⟨hclash, herror⟩ | ⟨hclear, hok⟩
    · exact iff_of_true herror hclash
    · simp [hok, hclear]
  · refine ⟨_, containers_eq_ok_iff.2 ⟨hclear, rfl⟩, ?_, listsOnce_rawRefs _,
      nodup_map_simpleName_rawRefs hclear⟩
    rw [rawRefs, containerNames, List.eraseDups_cons]
    rfl

/-! ### Accessors -/

/-- The accessors of a parser would be made for containers that clash. -/
def AccessorsClash (decl : TypeDecl) (wrappers : List TypeExpr) : Prop :=
  decl.typeParams.length = 1 ∧ NamesClash (containerNames wrappers)

/-- The accessors of a parser without wrappers do not clash. -/
theorem not_accessorsClash_nil {decl : TypeDecl} : ¬AccessorsClash decl [] :=
  fun h => not_namesClash_containerNames_nil h.2

/-- The containers that a parser has accessors for, of which there are none unless it has exactly
one type parameter. -/
def accessorContainers (decl : TypeDecl) (wrappers : List TypeExpr) : List ClassRef :=
  if decl.typeParams.length = 1 then rawRefs (containerNames wrappers) else []

theorem observable?_isSome (mode : Reactive) : mode.observable?.isSome = mode.isEnabled := by
  cases mode <;> rfl

section Accessors

variable {config : Config} {aliasName : String} {decl : TypeDecl} {wrappers : List TypeExpr}

theorem accessors_of_disabled (h : config.reactive.observable? = none) :
    accessors config aliasName decl wrappers = .ok none := by
  simp [accessors, h]

theorem accessors_of_no_product (h : decl.product? = none) :
    accessors config aliasName decl wrappers = .ok none := by
  simp [accessors, h]

variable {observable : String} {product : TypeExpr}

theorem accessors_of_clash (hobservable : config.reactive.observable? = some observable)
    (hproduct : decl.product? = some product) (h : AccessorsClash decl wrappers) :
    ∃ error, accessors config aliasName decl wrappers = .error error := by
  obtain ⟨hone, hclash⟩ := h
  rcases collects_containers decl wrappers with ⟨-, error, herror⟩ | ⟨hclear, -⟩
  · refine ⟨error, ?_⟩
    simp only [accessors, hobservable, hproduct, if_pos hone, herror]
    rfl
  · exact absurd hclash hclear

/-- The accessors of a parser are those of its public constructors, one after the other. -/
theorem accessors_of_not_clash (hobservable : config.reactive.observable? = some observable)
    (hproduct : decl.product? = some product) (h : ¬AccessorsClash decl wrappers) :
    accessors config aliasName decl wrappers =
      .ok (some (decl.publicConstructors.flatMap
        (accessorsOf observable ("as" ++ aliasName) decl product
          (accessorContainers decl wrappers)))) := by
  simp only [accessors, hobservable, hproduct, accessorContainers]
  by_cases hone : decl.typeParams.length = 1
  · have hok : containers decl wrappers = .ok (rawRefs (containerNames wrappers)) :=
      containers_eq_ok_iff.2 ⟨fun hclash => h ⟨hone, hclash⟩, rfl⟩
    rw [if_pos hone, if_pos hone, hok]
    rfl
  · rw [if_neg hone, if_neg hone]
    rfl

/-- There are no accessors to make, or else they are refused exactly if containers clash. -/
theorem accessors_cases (config : Config) (aliasName : String) (decl : TypeDecl)
    (wrappers : List TypeExpr) :
    (¬(config.reactive.isEnabled = true ∧ decl.product?.isSome = true) ∧
      accessors config aliasName decl wrappers = .ok none) ∨
    (config.reactive.isEnabled = true ∧ decl.product?.isSome = true ∧
      AccessorsClash decl wrappers ∧
        ∃ error, accessors config aliasName decl wrappers = .error error) ∨
    (¬AccessorsClash decl wrappers ∧
      ∃ observable product, accessors config aliasName decl wrappers =
        .ok (some (decl.publicConstructors.flatMap
          (accessorsOf observable ("as" ++ aliasName) decl product
            (accessorContainers decl wrappers))))) := by
  rw [← observable?_isSome]
  cases hobservable : config.reactive.observable? with
  | none => exact .inl ⟨by simp, accessors_of_disabled hobservable⟩
  | some observable =>
      cases hproduct : decl.product? with
      | none => exact .inl ⟨by simp, accessors_of_no_product hproduct⟩
      | some product =>
          by_cases hclash : AccessorsClash decl wrappers
          · exact .inr (.inl ⟨rfl, rfl, hclash, accessors_of_clash hobservable hproduct hclash⟩)
          · exact .inr (.inr ⟨hclash, observable, product,
              accessors_of_not_clash hobservable hproduct hclash⟩)

/-- Accessors that are made are those of the public constructors, for containers without clashes. -/
theorem eq_flatMap_of_accessors {members : List Java.Member}
    (h : accessors config aliasName decl wrappers = .ok (some members)) :
    ¬AccessorsClash decl wrappers ∧ ∃ observable product,
      members = decl.publicConstructors.flatMap
        (accessorsOf observable ("as" ++ aliasName) decl product
          (accessorContainers decl wrappers)) := by
  rcases accessors_cases config aliasName decl wrappers with
    ⟨-, hnone⟩ | ⟨-, -, -, error, herror⟩ | ⟨hclear, observable, product, hok⟩
  · simp [hnone] at h
  · simp [herror] at h
  · rw [hok] at h
    exact ⟨hclear, observable, product, (Option.some.inj (Except.ok.inj h)).symm⟩

/-- Accessors are refused exactly if they are to be made for containers that clash: in reactive
mode, for a parser that parses something. -/
theorem exists_accessors_eq_ok_iff :
    (∃ own, accessors config aliasName decl wrappers = .ok own) ↔
      ¬(config.reactive.isEnabled = true ∧ decl.product?.isSome = true ∧
        AccessorsClash decl wrappers) := by
  rcases accessors_cases config aliasName decl wrappers with
    ⟨hidle, hnone⟩ | ⟨hreactive, hproduct, hclash, error, herror⟩ | ⟨hclear, _, _, hok⟩
  · refine iff_of_true ⟨none, hnone⟩ ?_
    rintro ⟨hreactive, hproduct, -⟩
    exact hidle ⟨hreactive, hproduct⟩
  · simp [herror, hreactive, hproduct, hclash]
  · exact iff_of_true ⟨_, hok⟩ fun h => hclear h.2.2

end Accessors

end FluentHttp.Api
