import FluentHttp.Api.Extension
import FluentHttp.Api.Factory
import FluentHttp.Proofs.Api.Places
import FluentHttp.Proofs.Java.Scope
import Mathlib.Data.List.Nodup

/-!
# FluentHttp.Proofs.Api.DeclaredNames

Which names the members made from a constructor declare, and when these are different.

A member takes the constructor's parameters under their own names, next to names that are made up:
for the arguments of a formatted URL, for the request, for class tokens, and for the locals that
hold the types of containers. None of these is compared with the others, so each of them can be
declared twice (`nodup_declaredNames_iff`).
-/

namespace FluentHttp.Api

open Java

/-! ### Names of class tokens -/

/-- The names of the class tokens that stand for an array of type tokens. -/
def arrayTokens (typeParams : List TypeParam) : List String :=
  typeParams.map fun typeParam => (tokenParam typeParam).name

theorem Role.map_name_taken (typeParams : List TypeParam) (before : Nat) (param : Parameter) :
    ((Role.of typeParams before param).taken typeParams param).map (·.name) =
      if isTokenArray param then arrayTokens typeParams else [param.name] := by
  rw [Role.of]
  split
  · exact List.map_map
  · split
    · cases typeParams[before]? <;> rfl
    · rfl

theorem map_fst_roles (typeParams : List TypeParam) (params : List Parameter) :
    (roles typeParams params).map Prod.fst = params := by
  rw [roles]
  exact List.ext_getElem? fun place => by simp [Function.comp_def]

/-- An accessor has the names of the constructor's parameters, except for arrays of type tokens. -/
theorem map_name_takenParams (typeParams : List TypeParam) (params : List Parameter) :
    (takenParams typeParams params).map (·.name) =
      params.flatMap fun param =>
        if isTokenArray param then arrayTokens typeParams else [param.name] := by
  have hnames : ∀ entry ∈ roles typeParams params,
      (entry.2.taken typeParams entry.1).map (·.name) =
        if isTokenArray entry.1 then arrayTokens typeParams
        else [entry.1.name] := by
    intro entry hentry
    obtain ⟨place, hplace, rfl⟩ := List.mem_mapIdx.1 hentry
    exact Role.map_name_taken ..
  conv_rhs => rw [← map_fst_roles typeParams params, List.flatMap_map]
  rw [takenParams, List.map_flatMap]
  exact List.flatMap_congr hnames

/-- The names of class tokens are names of parameters. -/
theorem tokenNames_sublist (typeParams : List TypeParam) (params : List Parameter) :
    (tokenNames typeParams params).Sublist ((takenParams typeParams params).map (·.name)) := by
  rw [tokenNames, takenParams]
  induction roles typeParams params with
  | nil => exact .slnil
  | cons entry rest ih =>
      obtain ⟨param, role⟩ := entry
      rw [List.flatMap_cons, List.flatMap_cons, List.map_append]
      refine List.Sublist.append ?_ ih
      cases role with
      | tokenArray => simp [Role.tokens, Role.taken, Function.comp_def]
      | token _ => exact .refl _
      | plain => exact List.nil_sublist _

theorem tokenNames_of_not_isToken {decl : TypeDecl} {ctor : ConstructorDecl}
    (h : ¬(slotsOf decl ctor).any (·.source.isToken) = true) :
    tokenNames decl.typeParams ctor.params = [] := by
  rw [← flatMap_tokens_slotsOf, List.flatMap_map, List.flatMap_eq_nil_iff]
  intro slot hslot
  have hplain : ¬slot.source.isToken = true :=
    fun htoken => h (List.any_eq_true.2 ⟨slot, hslot, htoken⟩)
  cases hsource : slot.source with
  | plain _ => rfl
  | token _ | tokenArray _ => exact absurd (by rw [hsource]; rfl) hplain

/-! ### Names of parameters -/

/-- Up to their order, the names of parameters are those of the constructor's own that are passed
on, and the tokens once for each array of type tokens. -/
theorem map_name_takenParams_perm (typeParams : List TypeParam) (params : List Parameter) :
    ((takenParams typeParams params).map (·.name)).Perm
      ((params.filter (!isTokenArray ·)).map (·.name) ++
        (List.replicate (params.countP isTokenArray) (arrayTokens typeParams)).flatten) := by
  rw [map_name_takenParams]
  induction params with
  | nil => exact .nil
  | cons param rest ih =>
      rw [List.flatMap_cons]
      by_cases harray : isTokenArray param = true
      · rw [if_pos harray, List.filter_cons_of_neg (by simp [harray]),
          List.countP_cons_of_pos harray, List.replicate_succ, List.flatten_cons]
        exact (ih.append_left _).trans (List.perm_append_comm_assoc _ _ _)
      · rw [if_neg harray, List.filter_cons_of_pos (by simp [harray]),
          List.countP_cons_of_neg harray]
        exact ih.append_left [param.name]

theorem nodup_flatten_replicate_iff {names : List String} {count : Nat} :
    (List.replicate count names).flatten.Nodup ↔
      count = 0 ∨ names = [] ∨ count = 1 ∧ names.Nodup := by
  match count with
  | 0 => simp
  | 1 => simp [or_iff_right_of_imp fun h : names = [] => h ▸ List.nodup_nil]
  | count + 2 =>
      cases names with
      | nil => simp
      | cons name rest =>
          simp [List.replicate_succ, List.nodup_append]

/-- What keeps the class tokens for arrays of type tokens apart: there is one array at most, the
type parameters differ in small letters, and no other parameter is named like one of the tokens. -/
structure TokensApart (typeParams : List TypeParam) (params : List Parameter) : Prop where
  once : typeParams ≠ [] → params.countP isTokenArray = 1
  nodup : (typeParams.map fun typeParam => Text.lowercase typeParam.name).Nodup
  apart : ∀ param ∈ params, isTokenArray param = false →
    ∀ typeParam ∈ typeParams, param.name ≠ Text.lowercase typeParam.name ++ "Type"

theorem nodup_arrayTokens_iff {typeParams : List TypeParam} :
    (arrayTokens typeParams).Nodup ↔
      (typeParams.map fun typeParam => Text.lowercase typeParam.name).Nodup := by
  have hinj : Function.Injective (· ++ "Type") := fun _ _ => (String.append_left_inj "Type").1
  have htokens : arrayTokens typeParams =
      (typeParams.map fun typeParam => Text.lowercase typeParam.name).map (· ++ "Type") := by
    rw [List.map_map]
    rfl
  rw [htokens, List.nodup_map_iff hinj]

/-- Repeated tokens differ from the names of the parameters that are passed on exactly if these are
not named like tokens. -/
theorem forall_ne_flatten_replicate_iff {typeParams : List TypeParam} {params : List Parameter}
    (h : ∃ param ∈ params, isTokenArray param = true) :
    (∀ name ∈ (params.filter (!isTokenArray ·)).map (·.name),
        ∀ token ∈ (List.replicate (params.countP isTokenArray) (arrayTokens typeParams)).flatten,
          name ≠ token) ↔
      ∀ param ∈ params, isTokenArray param = false →
        ∀ typeParam ∈ typeParams, param.name ≠ Text.lowercase typeParam.name ++ "Type" := by
  have hcount : params.countP isTokenArray ≠ 0 := Nat.pos_iff_ne_zero.1 (List.countP_pos_iff.2 h)
  have htokens : ∀ token,
      token ∈ (List.replicate (params.countP isTokenArray) (arrayTokens typeParams)).flatten ↔
        token ∈ arrayTokens typeParams := by
    intro token
    simp [hcount]
  simp only [htokens, List.forall_mem_map, List.mem_filter, and_imp, Bool.not_eq_true']
  simp only [arrayTokens, tokenParam, List.forall_mem_map]

/-- The parameters of an accessor have different names, as those of the constructor do, exactly if
the class tokens for arrays of type tokens are kept apart. -/
theorem nodup_map_name_takenParams_iff {typeParams : List TypeParam} {params : List Parameter}
    (hnodup : (params.map (·.name)).Nodup) :
    ((takenParams typeParams params).map (·.name)).Nodup ↔
      ((∃ param ∈ params, isTokenArray param = true) → TokensApart typeParams params) := by
  have hplain : ((params.filter (!isTokenArray ·)).map (·.name)).Nodup :=
    hnodup.sublist (List.filter_sublist.map _)
  rw [(map_name_takenParams_perm typeParams params).nodup_iff, List.nodup_append,
    and_iff_right hplain, nodup_flatten_replicate_iff]
  by_cases harray : ∃ param ∈ params, isTokenArray param = true
  · have hcount : params.countP isTokenArray ≠ 0 :=
      Nat.pos_iff_ne_zero.1 (List.countP_pos_iff.2 harray)
    rw [forall_ne_flatten_replicate_iff harray, nodup_arrayTokens_iff, or_iff_right hcount]
    constructor
    · rintro ⟨hnone | ⟨hone, htokens⟩, hapart⟩ -
      · obtain rfl : typeParams = [] := List.map_eq_nil_iff.1 hnone
        exact ⟨fun hne => absurd rfl hne, List.nodup_nil, hapart⟩
      · exact ⟨fun _ => hone, htokens, hapart⟩
    · intro h
      obtain ⟨honce, htokens, hapart⟩ := h harray
      refine ⟨?_, hapart⟩
      by_cases hnone : typeParams = []
      · exact .inl (List.map_eq_nil_iff.2 hnone)
      · exact .inr ⟨honce hnone, htokens⟩
  · have hcount : params.countP isTokenArray = 0 := by
      rw [List.countP_eq_zero]
      exact fun param hmem htrue => harray ⟨param, hmem, htrue⟩
    simp [hcount, harray]

/-! ### Names of members -/

theorem declaredNames_factory (aliasName : String) (decl : TypeDecl) (wrapper : ClassDecl)
    (ctor : ConstructorDecl) :
    (factory aliasName decl wrapper ctor).declaredNames = (factoryParams ctor).map (·.name) :=
  List.append_nil _

theorem declaredNames_extension (name : String) (decl : TypeDecl) (product : TypeExpr)
    (ctor : ConstructorDecl) (parser : Expr) :
    (extension name decl product ctor parser).declaredNames =
      receiver.name :: ctor.params.map (·.name) :=
  List.append_nil _

theorem Parses.declaredNames {decl : TypeDecl} {ctor : ConstructorDecl} {locals : List Stmt}
    {token : String → Expr} {member : Java.Member} (h : Parses decl ctor locals token member) :
    member.declaredNames =
      (takenParams decl.typeParams ctor.params).map (·.name) ++ bodyLocalNames locals := by
  rw [Member.declaredNames, h.params, h.body, bodyLocalNames_append, bodyLocalNames_result,
    List.append_nil]

theorem bodyLocalNames_containerTokens (container : ClassRef) (tokens : List String) :
    bodyLocalNames (tokens.map (containerToken container)) =
      tokens.map (· ++ container.simpleName) := by
  induction tokens with
  | nil => rfl
  | cons token rest ih =>
      rw [List.map_cons, bodyLocalNames, ih]
      rfl

/-! ### Different names -/

theorem nodup_declaredNames_factory_iff {aliasName : String} {decl : TypeDecl}
    {wrapper : ClassDecl} {ctor : ConstructorDecl}
    (hnodup : (ctor.params.map (·.name)).Nodup) :
    (factory aliasName decl wrapper ctor).declaredNames.Nodup ↔
      (takesUrl ctor = true → formatArgs.name ∉ ctor.params.map (·.name)) := by
  rw [declaredNames_factory, factoryParams]
  split
  · next hurl =>
      rw [List.map_append, List.map_singleton, List.nodup_append]
      simp [hnodup, hurl]
  · next hurl => simp [hnodup, hurl]

theorem nodup_declaredNames_extension_iff {name : String} {decl : TypeDecl} {product : TypeExpr}
    {ctor : ConstructorDecl} {parser : Expr} (hnodup : (ctor.params.map (·.name)).Nodup) :
    (extension name decl product ctor parser).declaredNames.Nodup ↔
      "rxHttp" ∉ ctor.params.map (·.name) := by
  rw [declaredNames_extension, List.nodup_cons, and_iff_left hnodup]
  rfl

/-- The extension of a generic parser has no parameter but the request. -/
theorem nodup_declaredNames_extensions_iff {aliasName : String} {decl : TypeDecl}
    {members : List Java.Member}
    (hnodup : ∀ ctor ∈ decl.publicConstructors, (ctor.params.map (·.name)).Nodup)
    (h : extensions aliasName decl = some members) :
    (∀ member ∈ members, member.declaredNames.Nodup) ↔
      (decl.typeParams = [] → ∀ ctor ∈ decl.publicConstructors,
        "rxHttp" ∉ ctor.params.map (·.name)) := by
  obtain ⟨product, -, rfl⟩ := Option.map_eq_some_iff.1 h
  split
  · next hgeneric =>
      have hne : decl.typeParams ≠ [] := by simpa [TypeDecl.isGeneric] using hgeneric
      rw [List.forall_mem_singleton, declaredNames_extension]
      exact iff_of_true (List.nodup_singleton _) fun hnil => absurd hnil hne
  · next hgeneric =>
      have hnil : decl.typeParams = [] := by simpa [TypeDecl.isGeneric] using hgeneric
      rw [List.forall_mem_map, forall_prop_of_true hnil]
      exact forall₂_congr fun ctor hmem => nodup_declaredNames_extension_iff (hnodup ctor hmem)

/-- The locals of an accessor that parses into a container differ as the class tokens do, so only
one of each can have a name in common. -/
theorem nodup_declaredNames_containerAccessor_iff {observable name : String} {decl : TypeDecl}
    {product : TypeExpr} {ctor : ConstructorDecl} {container : ClassRef} :
    (containerAccessor observable name decl product ctor container).declaredNames.Nodup ↔
      ((takenParams decl.typeParams ctor.params).map (·.name)).Nodup ∧
        ∀ token ∈ tokenNames decl.typeParams ctor.params,
          token ++ container.simpleName ∉
            (takenParams decl.typeParams ctor.params).map (·.name) := by
  have hlocals (hnames : ((takenParams decl.typeParams ctor.params).map (·.name)).Nodup) :
      ((tokenNames decl.typeParams ctor.params).map (· ++ container.simpleName)).Nodup := by
    have hinj : Function.Injective (· ++ container.simpleName) :=
      fun _ _ => (String.append_left_inj _).1
    exact (hnames.sublist (tokenNames_sublist _ _)).map hinj
  rw [(parses_containerAccessor observable name decl product ctor container).declaredNames,
    bodyLocalNames_containerTokens, List.nodup_append]
  constructor
  · rintro ⟨hnames, -, hapart⟩
    refine ⟨hnames, fun token htoken hmem => ?_⟩
    exact hapart _ hmem _ (List.mem_map_of_mem htoken) rfl
  · rintro ⟨hnames, hapart⟩
    refine ⟨hnames, hlocals hnames, ?_⟩
    rintro name hname other hother rfl
    obtain ⟨token, htoken, rfl⟩ := List.mem_map.1 hother
    exact hapart token htoken hname

/-- What keeps the names of all accessors of a constructor apart: that of the class tokens, and that
no parameter is named like the local for one of them. -/
structure AccessorNamesApart (decl : TypeDecl) (containers : List ClassRef)
    (ctor : ConstructorDecl) : Prop where
  tokens : (∃ param ∈ ctor.params, isTokenArray param = true) →
    TokensApart decl.typeParams ctor.params
  locals : ∀ container ∈ containers, ∀ token ∈ tokenNames decl.typeParams ctor.params,
    token ++ container.simpleName ∉ (takenParams decl.typeParams ctor.params).map (·.name)

theorem nodup_declaredNames_accessorsOf_iff {observable name : String} {decl : TypeDecl}
    {product : TypeExpr} {containers : List ClassRef} {ctor : ConstructorDecl}
    (hnodup : (ctor.params.map (·.name)).Nodup) :
    (∀ member ∈ accessorsOf observable name decl product containers ctor,
        member.declaredNames.Nodup) ↔ AccessorNamesApart decl containers ctor := by
  have hbase : (accessor observable name decl product ctor).declaredNames =
      (takenParams decl.typeParams ctor.params).map (·.name) := by
    rw [(parses_accessor observable name decl product ctor).declaredNames]
    exact List.append_nil _
  have hparams := @nodup_map_name_takenParams_iff decl.typeParams _ hnodup
  rw [accessorsOf, List.forall_mem_cons, hbase]
  split
  · simp only [List.forall_mem_map, nodup_declaredNames_containerAccessor_iff]
    constructor
    · rintro ⟨hnames, hothers⟩
      exact ⟨hparams.1 hnames, fun container hmem => (hothers container hmem).2⟩
    · rintro ⟨htokens, hlocals⟩
      have hnames := hparams.2 htokens
      exact ⟨hnames, fun container hmem => ⟨hnames, hlocals container hmem⟩⟩
  · next hany =>
      -- without class tokens there are no locals
      have hnone := tokenNames_of_not_isToken hany
      rw [and_iff_left fun _ hmem => absurd hmem List.not_mem_nil, hparams]
      refine ⟨fun htokens => ⟨htokens, fun _ _ => ?_⟩, fun h => h.tokens⟩
      rw [hnone]
      exact fun _ hmem => absurd hmem List.not_mem_nil

/-- **When members declare different names.** Constructors that name their parameters differently
have members that declare different names under these conditions, and no others. Factories: no
parameter has the name of the arguments of a formatted URL, if there are such. Extensions: none has
the name of the request, unless the parser is generic. Accessors: class tokens are kept apart, and
no parameter is named like a local that holds the type of a container. -/
theorem nodup_declaredNames_iff {config : Config} {aliasName : String} {decl : TypeDecl}
    {wrappers : List TypeExpr}
    (hnodup : ∀ ctor ∈ decl.constructors, (ctor.params.map (·.name)).Nodup) :
    ((∀ member ∈ factories config aliasName decl, member.declaredNames.Nodup) ↔
      ∀ ctor ∈ decl.publicConstructors, takesUrl ctor = true →
        "formatArgs" ∉ ctor.params.map (·.name)) ∧
    (∀ members, extensions aliasName decl = some members →
      ((∀ member ∈ members, member.declaredNames.Nodup) ↔
        (decl.typeParams = [] → ∀ ctor ∈ decl.publicConstructors,
          "rxHttp" ∉ ctor.params.map (·.name)))) ∧
    (∀ members, accessors config aliasName decl wrappers = .ok (some members) →
      ((∀ member ∈ members, member.declaredNames.Nodup) ↔
        ∀ ctor ∈ decl.publicConstructors,
          AccessorNamesApart decl (accessorContainers decl wrappers) ctor)) := by
  have hpublic : ∀ ctor ∈ decl.publicConstructors, (ctor.params.map (·.name)).Nodup :=
    fun ctor hmem => hnodup ctor (List.mem_of_mem_filter hmem)
  refine ⟨?_, ?_, ?_⟩
  · rw [factories, List.forall_mem_map]
    exact forall₂_congr fun ctor hmem => nodup_declaredNames_factory_iff (hpublic ctor hmem)
  · exact fun members => nodup_declaredNames_extensions_iff hpublic
  · intro members hmembers
    obtain ⟨-, observable, product, rfl⟩ := eq_flatMap_of_accessors hmembers
    rw [List.forall_mem_flatMap]
    exact forall₂_congr fun ctor hmem => nodup_declaredNames_accessorsOf_iff (hpublic ctor hmem)

theorem nodup_declaredNames_iff_mixedConstructor :
    let parser := pageParser [mixedConstructor] (.variable "T")
    ∃ own ext, accessors {} "Page" parser [] = .ok (some own) ∧
      extensions "Page" parser = some ext ∧
      (∀ member ∈ own, member.declaredNames.Nodup) ∧
      ∀ member ∈ ext, member.declaredNames.Nodup := by
  intro parser
  obtain ⟨own, hown⟩ : ∃ own, accessors {} "Page" parser [] = .ok (some own) :=
    ⟨_, accessors_of_not_clash rfl product?_pageParser not_accessorsClash_nil⟩
  obtain ⟨ext, hext⟩ : ∃ ext, extensions "Page" parser = some ext :=
    ⟨_, by rw [extensions, product?_pageParser, Option.map_some]⟩
  have hnodup : ∀ ctor ∈ parser.constructors, (ctor.params.map (·.name)).Nodup := by decide
  have hapart : ∀ ctor ∈ parser.publicConstructors,
      AccessorNamesApart parser (accessorContainers parser []) ctor := by
    intro ctor hctor
    obtain rfl := List.mem_singleton.1 hctor
    exact ⟨fun _ => ⟨by decide, by decide, by decide⟩, by decide⟩
  obtain ⟨-, hextensions, haccessors⟩ := @nodup_declaredNames_iff {} "Page" parser [] hnodup
  exact ⟨own, ext, hown, hext, (haccessors own hown).2 hapart,
    (hextensions ext hext).2 fun hnil => absurd hnil (List.cons_ne_nil _ _)⟩

/-- A builder with a constructor that takes a URL and its own arguments for formatting it. -/
def formattedBuilder : TypeDecl :=
  { plainBuilder "com.example.UrlParam" "get" with
    members :=
      [.constructor
        { modifiers := { isPublic := true }
          params :=
            [{ name := "url", type := .ofLibrary .string [] },
              { name := "formatArgs", type := .array (.ofLibrary .object []) }]
          varargs := true }] }

/-- The factory for such a builder has two parameters of one name. -/
theorem not_nodup_declaredNames_formattedBuilder :
    let round : Round := { types := [formattedBuilder] }
    Contract.checkType {} round .param formattedBuilder = .ok () ∧
      round.registry.params = [("get", formattedBuilder)] ∧
      (formattedBuilder.typeParams.map (·.name)).Nodup ∧
      (∀ ctor ∈ formattedBuilder.constructors, (ctor.params.map (·.name)).Nodup) ∧
      ∃ member, factories {} "get" formattedBuilder = [member] ∧
        member.declaredNames = ["url", "formatArgs", "formatArgs"] ∧
        ¬member.declaredNames.Nodup := by
  intro round
  have hcontract : Contract.checkType {} round .param formattedBuilder = .ok () :=
    Contract.checkType_param_eq_ok_iff.2 ⟨rfl, rfl, Round.declReaches_of_superclass _ rfl rfl⟩
  exact ⟨hcontract, by decide, List.nodup_nil, by decide, _, rfl, rfl, by decide⟩

end FluentHttp.Api
