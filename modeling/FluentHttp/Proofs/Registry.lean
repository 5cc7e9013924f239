import FluentHttp.Proofs.Intake
import Mathlib.Data.List.Basic
import Mathlib.Data.List.Induction

/-!
# FluentHttp.Proofs.Registry

What the registry of a round holds once all of its declarations have been accepted.

Classes are put into a table one by one, each under its alias. Read off the whole list of classes,
the table has the aliases in the order in which they first come up, each with the last class that
carries it (`AliasTable.ofDecls`); one more class at the end of the list is one more insertion
(`AliasTable.ofDecls_concat`). `Round.registry` is the registry of a round in these terms, without
categories being taken up one after the other, and a round that breaks no contract leads to it
(`Survey.registry_ofRound`).
-/

namespace FluentHttp

/-! ### First occurrences -/

section FirstOccurrences

variable {α : Type} [DecidableEq α]

/-- An element behind a list adds to its first occurrences unless it has come up before. -/
theorem eraseDups_concat (xs : List α) (x : α) :
    (xs ++ [x]).eraseDups = if x ∈ xs then xs.eraseDups else xs.eraseDups ++ [x] := by
  rw [List.eraseDups_append]
  by_cases h : x ∈ xs
  · simp [List.removeAll, h]
  · simp [List.removeAll, h, List.eraseDups_cons]

theorem nodup_eraseDups (xs : List α) : xs.eraseDups.Nodup := by
  induction xs using List.reverseRecOn with
  | nil => simp
  | append_singleton xs x ih =>
      rw [eraseDups_concat]
      split
      · exact ih
      · next h =>
          refine List.nodup_append.2 ⟨ih, by simp, fun y hy z hz => ?_⟩
          rintro rfl
          obtain rfl : y = x := List.mem_singleton.1 hz
          exact h (List.mem_eraseDups.1 hy)

/-- First occurrences keep their order. -/
theorem pairwise_idxOf_eraseDups (xs : List α) :
    xs.eraseDups.Pairwise fun x y => xs.idxOf x < xs.idxOf y := by
  induction xs using List.reverseRecOn with
  | nil => exact .nil
  | append_singleton xs x ih =>
      have hkeep : ∀ y ∈ xs.eraseDups, (xs ++ [x]).idxOf y = xs.idxOf y :=
        fun y hy => List.idxOf_append_of_mem (List.mem_eraseDups.1 hy)
      have hkept : xs.eraseDups.Pairwise fun y z =>
          (xs ++ [x]).idxOf y < (xs ++ [x]).idxOf z := by
        refine ih.imp_of_mem fun hy hz hlt => ?_
        rwa [hkeep _ hy, hkeep _ hz]
      rw [eraseDups_concat]
      split
      · exact hkept
      · next h =>
          -- what is new comes up behind all the others
          refine List.pairwise_append.2 ⟨hkept, List.pairwise_singleton _ _, fun y hy z hz => ?_⟩
          obtain rfl := List.mem_singleton.1 hz
          have hlast : (xs ++ [z]).idxOf z = xs.length := by simp [List.idxOf_append, h]
          rw [hkeep y hy, hlast]
          exact List.idxOf_lt_length_of_mem (List.mem_eraseDups.1 hy)

end FirstOccurrences

/-! ### Classes by alias -/

/-- The name in the annotation of a class, empty where there is none. -/
def TypeDecl.givenAlias (decl : TypeDecl) : String :=
  decl.aliasName?.getD ""

namespace AliasTable

/-- The last class of an alias. -/
def lastOf? (decls : List TypeDecl) (aliasName : String) : Option TypeDecl :=
  (decls.filter (·.givenAlias == aliasName)).getLast?

/-- Classes by their aliases: the aliases in the order in which they first come up, each with the
last class that carries it. -/
def ofDecls (decls : List TypeDecl) : AliasTable :=
  (decls.map (·.givenAlias)).eraseDups.filterMap fun aliasName =>
    (lastOf? decls aliasName).map (aliasName, ·)

theorem lastOf?_concat (decls : List TypeDecl) (decl : TypeDecl) (aliasName : String) :
    lastOf? (decls ++ [decl]) aliasName =
      if aliasName = decl.givenAlias then some decl else lastOf? decls aliasName := by
  by_cases h : decl.givenAlias = aliasName
  · simp [lastOf?, h]
  · simp [lastOf?, h, Ne.symm h]

theorem isSome_lastOf? {decls : List TypeDecl} {aliasName : String}
    (h : aliasName ∈ decls.map (·.givenAlias)) : (lastOf? decls aliasName).isSome := by
  obtain ⟨decl, hdecl, halias⟩ := List.mem_map.1 h
  have hmem : decl ∈ decls.filter (·.givenAlias == aliasName) :=
    List.mem_filter.2 ⟨hdecl, by simpa using halias⟩
  simpa [lastOf?] using List.ne_nil_of_mem hmem

theorem map_fst_ofDecls (decls : List TypeDecl) :
    (ofDecls decls).map (·.1) = (decls.map (·.givenAlias)).eraseDups := by
  have hfst : ∀ a ∈ (decls.map (·.givenAlias)).eraseDups,
      ((lastOf? decls a).map (a, ·)).map Prod.fst = some a := by
    intro a ha
    obtain ⟨decl, hdecl⟩ := Option.isSome_iff_exists.1 (isSome_lastOf? (List.mem_eraseDups.1 ha))
    rw [hdecl]
    rfl
  rw [ofDecls, List.map_filterMap, List.filterMap_congr hfst, List.filterMap_some]

/-- The class of an alias is the last one that carries it. -/
theorem mem_ofDecls_iff {decls : List TypeDecl} {aliasName : String} {decl : TypeDecl} :
    (aliasName, decl) ∈ ofDecls decls ↔ lastOf? decls aliasName = some decl := by
  rw [ofDecls, List.mem_filterMap]
  constructor
  · rintro ⟨a, -, ha⟩
    obtain ⟨last, hlast, heq⟩ := Option.map_eq_some_iff.1 ha
    cases heq
    exact hlast
  · intro hlast
    have hmem := List.mem_of_getLast? hlast
    obtain ⟨hdecl, halias⟩ := List.mem_filter.1 hmem
    refine ⟨aliasName, List.mem_eraseDups.2 ?_, by rw [hlast]; rfl⟩
    exact List.mem_map.2 ⟨decl, hdecl, by simpa using halias⟩

/-- A table has one class for each alias, in the order in which the aliases first come up: the last
class that carries it. -/
structure HoldsLast (table : AliasTable) (decls : List TypeDecl) : Prop where
  aliases : table.map (·.1) = (decls.map (·.givenAlias)).eraseDups
  last : ∀ aliasName decl, (aliasName, decl) ∈ table ↔
    (decls.filter (·.givenAlias == aliasName)).getLast? = some decl

theorem holdsLast_ofDecls (decls : List TypeDecl) : (ofDecls decls).HoldsLast decls :=
  ⟨map_fst_ofDecls decls, fun _ _ => mem_ofDecls_iff⟩

/-- Inserting into a table that is given by its aliases and the class of each. An alias that is
there keeps its place. -/
theorem insert_filterMap {aliases : List String} (hnodup : aliases.Nodup)
    {classOf? : String → Option TypeDecl} (hall : ∀ a ∈ aliases, (classOf? a).isSome)
    (aliasName : String) (decl : TypeDecl) :
    insert aliasName decl (aliases.filterMap fun a => (classOf? a).map (a, ·)) =
      (if aliasName ∈ aliases then aliases else aliases ++ [aliasName]).filterMap fun a =>
        (if a = aliasName then some decl else classOf? a).map (a, ·) := by
  induction aliases with
  | nil => simp [insert]
  | cons first rest ih =>
      obtain ⟨hfirst, hrest⟩ := List.nodup_cons.1 hnodup
      obtain ⟨previous, hprevious⟩ := Option.isSome_iff_exists.1 (hall first (by simp))
      by_cases heq : first = aliasName
      · -- the alias is not among the others, so these stay as they are
        have hothers : rest.filterMap (fun a =>
            (if a = aliasName then some decl else classOf? a).map (a, ·)) =
              rest.filterMap fun a => (classOf? a).map (a, ·) := by
          refine List.filterMap_congr fun a ha => ?_
          rw [if_neg]
          rintro rfl
          exact hfirst (heq ▸ ha)
        subst heq
        simp [insert, hprevious, hothers]
      · have hinsert := ih hrest fun a ha => hall a (by simp [ha])
        rw [List.filterMap_cons_some (by rw [hprevious]; rfl), insert, if_neg heq, hinsert]
        by_cases hmem : aliasName ∈ rest
        · simp [hmem, heq, hprevious]
        · simp [hmem, heq, Ne.symm heq, hprevious]

/-- One more class at the end of the list is one more insertion. -/
theorem ofDecls_concat (decls : List TypeDecl) (decl : TypeDecl) :
    ofDecls (decls ++ [decl]) = insert decl.givenAlias decl (ofDecls decls) := by
  rw [ofDecls, ofDecls, insert_filterMap (nodup_eraseDups _)
    fun a ha => isSome_lastOf? (List.mem_eraseDups.1 ha)]
  simp only [List.map_append, List.map_singleton, eraseDups_concat, List.mem_eraseDups,
    lastOf?_concat]

/-- The table with classes inserted one after the other. -/
def insertAll (decls : List TypeDecl) (table : AliasTable) : AliasTable :=
  decls.foldl (fun table decl => insert decl.givenAlias decl table) table

theorem insertAll_nil (decls : List TypeDecl) : insertAll decls [] = ofDecls decls := by
  induction decls using List.reverseRecOn with
  | nil => rfl
  | append_singleton decls decl ih =>
      rw [ofDecls_concat, ← ih]
      simp [insertAll]

end AliasTable

/-! ### What a declaration does to a registry -/

namespace Registry

/-- The registry with a class that its category accepts. -/
def putType (category : Category) (registry : Registry) (decl : TypeDecl) : Registry :=
  match category with
  | .param => { registry with params := registry.params.insert decl.givenAlias decl }
  | .parser => { registry with parsers := registry.parsers.insert decl.givenAlias decl }
  | .converter | .okClient | .domain | .defaultDomain => registry

/-- The registry with a field that its category accepts. -/
def putField (category : Category) (registry : Registry) (field : FieldDecl) : Registry :=
  match category with
  | .converter => registry.addConverter field
  | .okClient => registry.addClient field
  | .domain => registry.addDomain field
  | .defaultDomain => { registry with defaultDomain := registry.defaultDomain.or field }
  | .param | .parser => registry

/-- The registry with all that a round has for a category. -/
def putCategory (round : Round) (registry : Registry) (category : Category) : Registry :=
  (round.annotatedFields category).foldl (putField category)
    ((round.annotatedTypes category).foldl (putType category) registry)

/-- An accepted class is in the table of its category, and that is all that changes. -/
theorem eq_putType_of_acceptType {config : Config} {round : Round} {category : Category}
    {registry taken : Registry} {decl : TypeDecl} {reports : List Diagnostic}
    (h : acceptType config round category registry decl = .ok (taken, reports)) :
    taken = registry.putType category decl := by
  unfold acceptType Contract.checkType at h
  cases hclause : Clause.firstBroken? (Contract.ofType config round decl category) with
  | some violation =>
      rw [hclause] at h
      cases h
  | none =>
      rw [hclause] at h
      cases category with
      | param | parser =>
          simp only [bind, Except.bind, addParam, addParser, aliasOf_eq] at h
          by_cases hempty : (decl.aliasName?.getD "").isEmpty = true
          · rw [if_pos hempty] at h
            cases h
          · rw [if_neg hempty] at h
            cases h
            rfl
      | converter | okClient | domain | defaultDomain =>
          cases h
          rfl

/-- An accepted field is in the list of its category, and that is all that changes. -/
theorem eq_putField_of_acceptField {round : Round} {category : Category}
    {registry taken : Registry} {field : FieldDecl} {reports : List Diagnostic}
    (h : acceptField round category registry field = .ok (taken, reports)) :
    taken = registry.putField category field := by
  unfold acceptField Contract.checkField at h
  cases hclause : Clause.firstBroken? (Contract.ofField round field category) with
  | some violation =>
      rw [hclause] at h
      cases h
  | none =>
      rw [hclause] at h
      cases category with
      | defaultDomain =>
          simp only [bind, Except.bind, setDefaultDomain] at h
          cases hdefault : registry.defaultDomain with
          | some first =>
              rw [hdefault] at h
              cases h
          | none =>
              rw [hdefault] at h
              cases h
              simp [putField, hdefault]
      | param | parser | converter | okClient | domain =>
          cases h
          rfl

end Registry

/-! ### What an intake without failures leads to -/

theorem Intake.registry_ofList {α : Type} {accept : Registry → α → Acceptance}
    {put : Registry → α → Registry}
    (haccept : ∀ {registry taken reports decl},
      accept registry decl = .ok (taken, reports) → taken = put registry decl)
    {registry : Registry} {decls : List α} (h : (ofList accept registry decls).failure = none) :
    (ofList accept registry decls).registry = decls.foldl put registry := by
  induction decls generalizing registry with
  | nil => rfl
  | cons decl rest ih =>
      rw [ofList] at h ⊢
      cases haccepted : accept registry decl with
      | error error =>
          rw [haccepted] at h
          cases h
      | ok result =>
          obtain ⟨taken, reports⟩ := result
          rw [haccepted] at h
          obtain rfl := haccept haccepted
          exact ih h

theorem Intake.registry_ofCategory {config : Config} {round : Round} {category : Category}
    {registry : Registry} (h : (ofCategory config round registry category).failure = none) :
    (ofCategory config round registry category).registry =
      registry.putCategory round category := by
  unfold ofCategory at h ⊢
  dsimp only at h ⊢
  cases htypes : (ofList (acceptType config round category) registry
      (round.annotatedTypes category)).failure with
  | some error =>
      simp only [htypes] at h
      cases h
  | none =>
      simp only [htypes] at h ⊢
      rw [registry_ofList Registry.eq_putField_of_acceptField h,
        registry_ofList Registry.eq_putType_of_acceptType htypes, Registry.putCategory]

theorem Survey.registry_ofCategories {config : Config} {round : Round} {registry : Registry}
    {categories : List Category}
    (h : (ofCategories config round registry categories).failures = []) :
    (ofCategories config round registry categories).registry =
      categories.foldl (·.putCategory round) registry := by
  induction categories generalizing registry with
  | nil => rfl
  | cons category rest ih =>
      rw [ofCategories] at h ⊢
      dsimp only at h ⊢
      cases hfailure : (Intake.ofCategory config round registry category).failure with
      | some error =>
          -- a failure stays on the list, whether it ends the round or not
          simp only [hfailure] at h
          split at h <;> cases h
      | none =>
          simp only [hfailure] at h ⊢
          rw [ih h, Intake.registry_ofCategory hfailure, List.foldl_cons]

/-! ### The registry of a round -/

namespace Registry

/-- Classes are for the table of their own category. -/
theorem foldl_putType (category : Category) (decls : List TypeDecl) (registry : Registry) :
    decls.foldl (putType category) registry =
      match category with
      | .param => { registry with params := registry.params.insertAll decls }
      | .parser => { registry with parsers := registry.parsers.insertAll decls }
      | .converter | .okClient | .domain | .defaultDomain => registry := by
  induction decls generalizing registry with
  | nil => cases category <;> rfl
  | cons decl rest ih =>
      rw [List.foldl_cons, ih]
      cases category <;> rfl

/-- Fields are for their own category only, in the order in which they come. -/
theorem foldl_putField (category : Category) (fields : List FieldDecl) (registry : Registry) :
    fields.foldl (putField category) registry =
      match category with
      | .converter => { registry with converters := registry.converters ++ fields }
      | .okClient => { registry with clients := registry.clients ++ fields }
      | .domain => { registry with domains := registry.domains ++ fields }
      | .defaultDomain =>
        { registry with defaultDomain := registry.defaultDomain.or fields.head? }
      | .param | .parser => registry := by
  induction fields generalizing registry with
  | nil => cases category <;> simp
  | cons field rest ih =>
      rw [List.foldl_cons, ih]
      cases category <;>
        simp [putField, addConverter, addClient, addDomain]

end Registry

namespace Round

/-- The builders of a round, by alias. -/
def builders (round : Round) : AliasTable :=
  AliasTable.ofDecls (round.annotatedTypes .param)

/-- The parsers of a round, by alias. -/
def parsers (round : Round) : AliasTable :=
  AliasTable.ofDecls (round.annotatedTypes .parser)

/-- All that a round has for a registry. -/
def registry (round : Round) : Registry where
  params := round.builders
  parsers := round.parsers
  converters := round.annotatedFields .converter
  clients := round.annotatedFields .okClient
  domains := round.annotatedFields .domain
  defaultDomain := (round.annotatedFields .defaultDomain).head?

theorem foldl_putCategory (round : Round) :
    Category.all.foldl (·.putCategory round) {} = round.registry := by
  simp [Category.all, Registry.putCategory, Registry.foldl_putType, Registry.foldl_putField,
    AliasTable.insertAll_nil, registry, builders, parsers]

end Round

/-- A round that breaks no contract has all of its declarations registered. -/
theorem Survey.registry_ofRound {config : Config} {round : Round}
    (h : (ofRound config round).failures = []) :
    (ofRound config round).registry = round.registry := by
  rw [ofRound] at h ⊢
  rw [registry_ofCategories h, Round.foldl_putCategory]

end FluentHttp
