import FluentHttp.Proofs.Declaration.Mentioned
import FluentHttp.Proofs.Declaration.Records
import FluentHttp.Proofs.TypeExpr.Reading

/-!
# FluentHttp.Proofs.Declaration.RoundTrip

A round that is written as a document is read back as it was (`Round.ofText_text_toJson`).

Documents hold types as texts. So the rounds that come back are those whose types some text
expresses (`TypeExpr.IsExpressible`): of these, each reader gives back what its writer was given
(`Reader.round_toJson`), and no document describes any other round (`Reader.yields_round`).
-/

namespace FluentHttp

open Json (Outline)

/-- Some text expresses a type. -/
def TypeExpr.IsExpressible (type : TypeExpr) : Prop :=
  ∃ text, TypeExpr.parse text = .ok type

theorem TypeExpr.isExpressible_iff_canonical {type : TypeExpr} :
    type.IsExpressible ↔ type.Canonical :=
  ⟨fun ⟨_, h⟩ => (parse_sound h).1, fun h => ⟨type.text, h.parse_eq_ok rfl⟩⟩

theorem TypeExpr.isExpressible_void : TypeExpr.void.IsExpressible :=
  isExpressible_iff_canonical.2 .void

namespace Reader

/-! ### Values -/

theorem type_toJson {type : TypeExpr} (h : type.IsExpressible) :
    Reader.type type.toJson.outline = .ok type := by
  have hparse : TypeExpr.parse type.text = .ok type :=
    (TypeExpr.isExpressible_iff_canonical.1 h).parse_eq_ok rfl
  change (TypeExpr.parse type.text).mapError DocumentError.type = .ok type
  rw [hparse]
  rfl

theorem types_toJson {types : List TypeExpr} (h : ∀ type ∈ types, type.IsExpressible) :
    list Reader.type (Json.ofList TypeExpr.toJson types).outline = .ok types :=
  list_ofList fun type htype => type_toJson (h type htype)

theorem modifiers_toJson (stored : Bool) (set : Modifiers) :
    modifiers stored set.toJson.outline = .ok set := by
  have hlist : list (modifier stored) set.toJson.outline = .ok set.toList :=
    list_ofList fun m _ => by cases m <;> rfl
  rw [modifiers, hlist, Except.map_ok, Modifiers.ofList_toList]

/-! ### Members -/

theorem typeParam_toJson {param : TypeParam} (h : ∀ bound ∈ param.bounds, bound.IsExpressible) :
    typeParam param.toJson.outline = .ok param := by
  rw [TypeParam.toJson, ← List.append_nil (Json.listField _ _ _)]
  exact record_eq_ok
    (.field rfl <| .listField rfl (return_of_eq_ok (types_toJson h) _) .nil)
    (by decide) (by simp)

theorem parameter_toJson {param : Parameter} (h : param.type.IsExpressible) :
    parameter param.toJson.outline = .ok param :=
  record_eq_ok (.field rfl <| .field (return_of_eq_ok (type_toJson h) _) .nil)
    (by decide) (by simp)

theorem params_toJson {params : List Parameter} (h : ∀ param ∈ params, param.type.IsExpressible) :
    list parameter (Json.ofList Parameter.toJson params).outline = .ok params :=
  list_ofList fun param hparam => parameter_toJson (h param hparam)

theorem typeParams_toJson {params : List TypeParam}
    (h : ∀ param ∈ params, ∀ bound ∈ param.bounds, bound.IsExpressible) :
    list typeParam (Json.ofList TypeParam.toJson params).outline = .ok params :=
  list_ofList fun param hparam => typeParam_toJson (h param hparam)

theorem isStorable_types {depth : Nat} (hdepth : depth ≠ 0) (types : List TypeExpr) :
    (Json.ofList TypeExpr.toJson types).outline.isStorable depth = true :=
  isStorable_ofList hdepth fun _ _ => rfl

theorem isStorable_modifiers {depth : Nat} (hdepth : depth ≠ 0) (set : Modifiers) :
    set.toJson.outline.isStorable depth = true :=
  isStorable_ofList hdepth fun _ _ => rfl

theorem isStorable_params {depth : Nat} (hdepth : 2 ≤ depth) (params : List Parameter) :
    (Json.ofList Parameter.toJson params).outline.isStorable depth = true := by
  refine isStorable_ofList (by omega) fun param _ => isStorable_object (by omega) ?_
  exact List.forall_mem_cons.2 ⟨rfl, List.forall_mem_singleton.2 rfl⟩

/-- Nothing in a member nests deeper than the bounds of type parameters. -/
theorem isStorable_typeParams {depth : Nat} (hdepth : 3 ≤ depth) (params : List TypeParam) :
    (Json.ofList TypeParam.toJson params).outline.isStorable depth = true := by
  refine isStorable_ofList (by omega) fun param _ => isStorable_object (by omega) ?_
  exact List.forall_mem_cons.2
    ⟨rfl, forall_mem_listField (isStorable_types (by omega) param.bounds)⟩

theorem method_toJson {decl : MethodDecl} (h : ∀ type ∈ decl.signatureTypes, type.IsExpressible) :
    member (Member.method decl).toJson.outline = .ok (.method decl) := by
  obtain ⟨hbounds, hparams, hreturn, hthrows⟩ := MethodDecl.forall_mem_signatureTypes.1 h
  simp only [Member.toJson, List.cons_append, List.append_assoc, List.nil_append]
  rw [member, tagged_eq rfl]
  · refine map_of_eq_ok ?_ Member.method
    exact record_eq_ok
      (.field rfl <|
        .field (return_of_eq_ok (modifiers_toJson true decl.modifiers) _) <|
        .listField rfl (return_of_eq_ok (typeParams_toJson hbounds) _) <|
        .field (return_of_eq_ok (params_toJson hparams) _) <|
        .field (return_of_eq_ok (type_toJson hreturn) _) <|
        .listField rfl (return_of_eq_ok (types_toJson hthrows) _) <|
        .field rfl <| .field rfl .nil)
      (by decide) (by simp)
  · simp only [List.forall_mem_cons, List.forall_mem_append]
    exact ⟨.intro (by decide) rfl,
      .intro (by decide) (isStorable_modifiers (by decide) _),
      forall_mem_listField (.intro (by decide) (isStorable_typeParams (by decide) _)),
      .intro (by decide) (isStorable_params (by decide) _),
      .intro (by decide) rfl,
      forall_mem_listField (.intro (by decide) (isStorable_types (by decide) _)),
      .intro (by decide) rfl, .intro (by decide) rfl, List.forall_mem_nil _⟩

theorem constructor_toJson {decl : ConstructorDecl}
    (h : ∀ type ∈ decl.signatureTypes, type.IsExpressible) :
    member (Member.constructor decl).toJson.outline = .ok (.constructor decl) := by
  obtain ⟨hparams, hthrows⟩ := ConstructorDecl.forall_mem_signatureTypes.1 h
  simp only [Member.toJson, List.cons_append, List.nil_append]
  rw [member, tagged_eq rfl]
  · refine map_of_eq_ok ?_ Member.constructor
    exact record_eq_ok
      (.field (return_of_eq_ok (modifiers_toJson true decl.modifiers) _) <|
        .field (return_of_eq_ok (params_toJson hparams) _) <|
        .listField rfl (return_of_eq_ok (types_toJson hthrows) _) <|
        .field rfl .nil)
      (by decide) (by simp)
  · simp only [List.forall_mem_cons, List.forall_mem_append]
    exact ⟨.intro (by decide) (isStorable_modifiers (by decide) _),
      .intro (by decide) (isStorable_params (by decide) _),
      forall_mem_listField (.intro (by decide) (isStorable_types (by decide) _)),
      .intro (by decide) rfl, List.forall_mem_nil _⟩

theorem member_toJson {decl : Member} (h : ∀ type ∈ decl.signatureTypes, type.IsExpressible) :
    member decl.toJson.outline = .ok decl := by
  cases decl with
  | method decl => exact method_toJson h
  | constructor decl => exact constructor_toJson h

/-! ### Annotations -/

theorem namedAnnotation_toJson (build : String → Annotation) (name : String) :
    namedAnnotation build (Json.object [("name", .string name)]).outline = .ok (build name) :=
  map_of_eq_ok (record_eq_ok (.field rfl .nil) (by decide) (by simp)) build

theorem annotation_toJson {given : Annotation} (h : ∀ type ∈ given.wrappers, type.IsExpressible) :
    annotation given.toJson.outline = .ok given := by
  have hname : ∀ (key name : String), key ≠ "kind" →
      ∀ field ∈ [(key, Json.string name)], IsStorableField (nestingLimit - 4) field :=
    fun key name hkey => List.forall_mem_singleton.2 ⟨hkey, rfl⟩
  cases given with
  | param methodName =>
      refine (tagged_eq rfl (hname "method_name" methodName (by decide))).trans ?_
      refine map_of_eq_ok ?_ Annotation.param
      exact record_eq_ok (.field rfl .nil) (by decide) (by simp)
  | parser name wrappers =>
      have hfields : ∀ field ∈ ("name", Json.string name) ::
          Json.listField "wrappers" TypeExpr.toJson wrappers,
          IsStorableField (nestingLimit - 4) field :=
        List.forall_mem_cons.2 ⟨.intro (by decide) rfl,
          forall_mem_listField (.intro (by decide) (isStorable_types (by decide) _))⟩
      refine (tagged_eq rfl hfields).trans ?_
      rw [← List.append_nil (Json.listField _ _ _)]
      refine return_of_eq_ok (x := (name, wrappers)) ?_ fun read =>
        Annotation.parser read.1 read.2
      exact record_eq_ok
        (.field rfl <| .listField rfl (return_of_eq_ok (types_toJson h) _) .nil)
        (by decide) (by simp)
  | converter name =>
      exact (tagged_eq rfl (hname "name" name (by decide))).trans
        (namedAnnotation_toJson .converter name)
  | okClient name =>
      exact (tagged_eq rfl (hname "name" name (by decide))).trans
        (namedAnnotation_toJson .okClient name)
  | domain name =>
      exact (tagged_eq rfl (hname "name" name (by decide))).trans
        (namedAnnotation_toJson .domain name)
  | defaultDomain =>
      refine (tagged_eq rfl (List.forall_mem_nil _)).trans ?_
      exact record_eq_ok .nil (by decide) (by simp)

theorem givenAnnotation_toJson {given? : Option Annotation}
    (h : ∀ given ∈ given?, ∀ type ∈ given.wrappers, type.IsExpressible) :
    option annotation (optionOutline Annotation.toJson given?) = .ok given? :=
  option_optionOutline (fun given => by cases given <;> nofun)
    fun given hgiven => annotation_toJson (h given hgiven)

/-! ### Declarations -/

theorem typeDecl_toJson {decl : TypeDecl} (h : ∀ type ∈ decl.mentionedTypes, type.IsExpressible) :
    typeDecl decl.toJson.outline = .ok decl := by
  obtain ⟨hbounds, hsuperclass, hinterfaces, hmembers, hgiven⟩ :=
    TypeDecl.forall_mem_mentionedTypes.1 h
  have hsuperclass : option Reader.type (optionOutline TypeExpr.toJson decl.superclass) =
      .ok decl.superclass :=
    option_optionOutline (fun _ => nofun) fun type htype => type_toJson (hsuperclass type htype)
  have hmembers : list member (Json.ofList Member.toJson decl.members).outline =
      .ok decl.members :=
    list_ofList fun member hmember => member_toJson (hmembers member hmember)
  rw [TypeDecl.toJson, ← List.append_nil (Json.optionField "annotation" _ _)]
  simp only [List.cons_append, List.append_assoc, List.nil_append]
  exact record_eq_ok
    (.field rfl <|
      .field (return_of_eq_ok (modifiers_toJson false decl.modifiers) _) <|
      .listField rfl (return_of_eq_ok (typeParams_toJson hbounds) _) <|
      .optionField rfl (return_of_eq_ok hsuperclass _) <|
      .listField rfl (return_of_eq_ok (types_toJson hinterfaces) _) <|
      .listField rfl (return_of_eq_ok hmembers _) <|
      .optionField rfl (return_of_eq_ok (givenAnnotation_toJson hgiven) _) .nil)
    (by decide) (by simp)

theorem fieldDecl_toJson {field : FieldDecl}
    (h : ∀ type ∈ field.mentionedTypes, type.IsExpressible) :
    fieldDecl field.toJson.outline = .ok field := by
  obtain ⟨htype, hgiven⟩ := FieldDecl.forall_mem_mentionedTypes.1 h
  rw [FieldDecl.toJson, ← List.append_nil (Json.optionField "annotation" _ _)]
  exact record_eq_ok
    (.field rfl <| .field rfl <|
      .field (return_of_eq_ok (modifiers_toJson false field.modifiers) _) <|
      .field (return_of_eq_ok (type_toJson htype) _) <|
      .optionField rfl (return_of_eq_ok (givenAnnotation_toJson hgiven) _) .nil)
    (by decide) (by simp)

theorem round_toJson {round : Round} (h : ∀ type ∈ round.mentionedTypes, type.IsExpressible) :
    Reader.round round.toJson.outline = .ok round := by
  obtain ⟨htypes, hfields⟩ := Round.forall_mem_mentionedTypes.1 h
  have htypes : list typeDecl (Json.ofList TypeDecl.toJson round.types).outline =
      .ok round.types :=
    list_ofList fun decl hdecl => typeDecl_toJson (htypes decl hdecl)
  have hfields : list fieldDecl (Json.ofList FieldDecl.toJson round.fields).outline =
      .ok round.fields :=
    list_ofList fun field hfield => fieldDecl_toJson (hfields field hfield)
  exact record_eq_ok
    (.field (return_of_eq_ok htypes _) <| .field (return_of_eq_ok hfields _) .nil)
    (by decide) (by simp)

/-! ### What a document can describe -/

theorem yields_type : Yields Reader.type TypeExpr.IsExpressible := by
  intro outline type h
  obtain ⟨text, -, h⟩ := exists_of_bind h
  exact ⟨text, TypeExpr.mapError_eq_ok_iff.1 h⟩

theorem yields_typeParam :
    Yields typeParam fun param => ∀ bound ∈ param.bounds, bound.IsExpressible := by
  refine .record (List.forall_mem_nil _) fun param key hparam value next h => ?_
  split at h
  · obtain ⟨_, -, ⟨⟩⟩ := exists_of_bind h
    exact hparam
  · obtain ⟨_, hbounds, ⟨⟩⟩ := exists_of_bind h
    exact yields_type.list _ _ hbounds
  · cases h
    exact hparam

theorem yields_parameter : Yields parameter fun param => param.type.IsExpressible := by
  refine .record TypeExpr.isExpressible_void fun param key hparam value next h => ?_
  split at h
  · obtain ⟨_, -, ⟨⟩⟩ := exists_of_bind h
    exact hparam
  · obtain ⟨_, htype, ⟨⟩⟩ := exists_of_bind h
    exact yields_type _ _ htype
  · cases h
    exact hparam

theorem yields_method :
    Yields method fun decl => ∀ type ∈ decl.signatureTypes, type.IsExpressible := by
  simp only [MethodDecl.forall_mem_signatureTypes]
  refine .record
    ⟨List.forall_mem_nil _, List.forall_mem_nil _, TypeExpr.isExpressible_void,
      List.forall_mem_nil _⟩
    fun decl key ⟨hbounds, hparams, hreturn, hthrows⟩ value next h => ?_
  split at h
  · obtain ⟨_, -, ⟨⟩⟩ := exists_of_bind h
    exact ⟨hbounds, hparams, hreturn, hthrows⟩
  · obtain ⟨_, -, ⟨⟩⟩ := exists_of_bind h
    exact ⟨hbounds, hparams, hreturn, hthrows⟩
  · obtain ⟨_, hread, ⟨⟩⟩ := exists_of_bind h
    exact ⟨yields_typeParam.list _ _ hread, hparams, hreturn, hthrows⟩
  · obtain ⟨_, hread, ⟨⟩⟩ := exists_of_bind h
    exact ⟨hbounds, yields_parameter.list _ _ hread, hreturn, hthrows⟩
  · obtain ⟨_, hread, ⟨⟩⟩ := exists_of_bind h
    exact ⟨hbounds, hparams, yields_type _ _ hread, hthrows⟩
  · obtain ⟨_, hread, ⟨⟩⟩ := exists_of_bind h
    exact ⟨hbounds, hparams, hreturn, yields_type.list _ _ hread⟩
  · obtain ⟨_, -, ⟨⟩⟩ := exists_of_bind h
    exact ⟨hbounds, hparams, hreturn, hthrows⟩
  · obtain ⟨_, -, ⟨⟩⟩ := exists_of_bind h
    exact ⟨hbounds, hparams, hreturn, hthrows⟩
  · cases h
    exact ⟨hbounds, hparams, hreturn, hthrows⟩

theorem yields_constructor :
    Yields constructor fun decl => ∀ type ∈ decl.signatureTypes, type.IsExpressible := by
  simp only [ConstructorDecl.forall_mem_signatureTypes]
  refine .record ⟨List.forall_mem_nil _, List.forall_mem_nil _⟩
    fun decl key ⟨hparams, hthrows⟩ value next h => ?_
  split at h
  · obtain ⟨_, -, ⟨⟩⟩ := exists_of_bind h
    exact ⟨hparams, hthrows⟩
  · obtain ⟨_, hread, ⟨⟩⟩ := exists_of_bind h
    exact ⟨yields_parameter.list _ _ hread, hthrows⟩
  · obtain ⟨_, hread, ⟨⟩⟩ := exists_of_bind h
    exact ⟨hparams, yields_type.list _ _ hread⟩
  · obtain ⟨_, -, ⟨⟩⟩ := exists_of_bind h
    exact ⟨hparams, hthrows⟩
  · cases h
    exact ⟨hparams, hthrows⟩

theorem yields_member :
    Yields member fun decl => ∀ type ∈ decl.signatureTypes, type.IsExpressible := by
  refine .tagged (List.forall_mem_cons.2 ⟨?_, List.forall_mem_singleton.2 ?_⟩)
  · exact yields_method.map fun _ h => h
  · exact yields_constructor.map fun _ h => h

/-- Where an annotation is a name and nothing else, its reader yields no types. -/
theorem yields_named {read : Outline → Except DocumentError String} {build : String → Annotation}
    (h : ∀ name, (build name).wrappers = []) :
    Yields (fun outline => build <$> read outline) fun given =>
      ∀ type ∈ given.wrappers, type.IsExpressible := by
  have hread : Yields read fun _ => True := fun _ _ _ => trivial
  refine hread.map fun name _ => ?_
  rw [h]
  exact List.forall_mem_nil _

theorem yields_annotation :
    Yields annotation fun given => ∀ type ∈ given.wrappers, type.IsExpressible := by
  refine .tagged ?_
  simp only [List.forall_mem_cons]
  refine ⟨yields_named fun _ => rfl, ?_, yields_named fun _ => rfl, yields_named fun _ => rfl,
    yields_named fun _ => rfl, ?_, List.forall_mem_nil _⟩
  · intro outline given h
    obtain ⟨⟨name, wrappers⟩, hread, ⟨⟩⟩ := exists_of_bind h
    refine Yields.record (p := fun record : String × List TypeExpr =>
      ∀ type ∈ record.2, type.IsExpressible) (List.forall_mem_nil _) ?_ _ _ hread
    intro record key hrecord value next hstore
    split at hstore
    · obtain ⟨_, -, ⟨⟩⟩ := exists_of_bind hstore
      exact hrecord
    · obtain ⟨_, hwrappers, ⟨⟩⟩ := exists_of_bind hstore
      exact yields_type.list _ _ hwrappers
    · cases hstore
      exact hrecord
  · refine .record (List.forall_mem_nil _) fun given key hgiven value next hstore => ?_
    cases hstore
    exact hgiven

theorem yields_typeDecl :
    Yields typeDecl fun decl => ∀ type ∈ decl.mentionedTypes, type.IsExpressible := by
  simp only [TypeDecl.forall_mem_mentionedTypes]
  refine .record
    ⟨List.forall_mem_nil _, nofun, List.forall_mem_nil _, List.forall_mem_nil _, nofun⟩
    fun decl key ⟨hbounds, hsuperclass, hinterfaces, hmembers, hgiven⟩ value next h => ?_
  split at h
  · obtain ⟨_, -, ⟨⟩⟩ := exists_of_bind h
    exact ⟨hbounds, hsuperclass, hinterfaces, hmembers, hgiven⟩
  · obtain ⟨_, -, ⟨⟩⟩ := exists_of_bind h
    exact ⟨hbounds, hsuperclass, hinterfaces, hmembers, hgiven⟩
  · obtain ⟨_, hread, ⟨⟩⟩ := exists_of_bind h
    exact ⟨yields_typeParam.list _ _ hread, hsuperclass, hinterfaces, hmembers, hgiven⟩
  · obtain ⟨_, hread, ⟨⟩⟩ := exists_of_bind h
    exact ⟨hbounds, yields_type.option _ _ hread, hinterfaces, hmembers, hgiven⟩
  · obtain ⟨_, hread, ⟨⟩⟩ := exists_of_bind h
    exact ⟨hbounds, hsuperclass, yields_type.list _ _ hread, hmembers, hgiven⟩
  · obtain ⟨_, hread, ⟨⟩⟩ := exists_of_bind h
    exact ⟨hbounds, hsuperclass, hinterfaces, yields_member.list _ _ hread, hgiven⟩
  · obtain ⟨_, hread, ⟨⟩⟩ := exists_of_bind h
    exact ⟨hbounds, hsuperclass, hinterfaces, hmembers, yields_annotation.option _ _ hread⟩
  · cases h
    exact ⟨hbounds, hsuperclass, hinterfaces, hmembers, hgiven⟩

theorem yields_fieldDecl :
    Yields fieldDecl fun field => ∀ type ∈ field.mentionedTypes, type.IsExpressible := by
  simp only [FieldDecl.forall_mem_mentionedTypes]
  refine .record ⟨TypeExpr.isExpressible_void, nofun⟩
    fun field key ⟨htype, hgiven⟩ value next h => ?_
  split at h
  · obtain ⟨_, -, ⟨⟩⟩ := exists_of_bind h
    exact ⟨htype, hgiven⟩
  · obtain ⟨_, -, ⟨⟩⟩ := exists_of_bind h
    exact ⟨htype, hgiven⟩
  · obtain ⟨_, -, ⟨⟩⟩ := exists_of_bind h
    exact ⟨htype, hgiven⟩
  · obtain ⟨_, hread, ⟨⟩⟩ := exists_of_bind h
    exact ⟨yields_type _ _ hread, hgiven⟩
  · obtain ⟨_, hread, ⟨⟩⟩ := exists_of_bind h
    exact ⟨htype, yields_annotation.option _ _ hread⟩
  · cases h
    exact ⟨htype, hgiven⟩

theorem yields_round :
    Yields Reader.round fun round => ∀ type ∈ round.mentionedTypes, type.IsExpressible := by
  simp only [Round.forall_mem_mentionedTypes]
  refine .record ⟨List.forall_mem_nil _, List.forall_mem_nil _⟩
    fun round key ⟨htypes, hfields⟩ value next h => ?_
  split at h
  · obtain ⟨_, hread, ⟨⟩⟩ := exists_of_bind h
    exact ⟨yields_typeDecl.list _ _ hread, hfields⟩
  · obtain ⟨_, hread, ⟨⟩⟩ := exists_of_bind h
    exact ⟨htypes, yields_fieldDecl.list _ _ hread⟩
  · cases h
    exact ⟨htypes, hfields⟩

end Reader

/-! ### Rounds and documents -/

namespace Round

theorem ofText_eq_ok_iff {text : String} {round : Round} :
    ofText text = .ok round ↔
      Reader.round (Json.Reading.ofText text).root = .ok round ∧
        (Json.Reading.ofText text).complete = true := by
  rw [ofText, ofOutline]
  cases hread : Reader.round (Json.Reading.ofText text).root with
  | error _ => exact iff_of_false nofun nofun
  | ok read =>
      change (if (Json.Reading.ofText text).complete = true then Except.ok read
        else Except.error DocumentError.notJson) = .ok round ↔ _
      split
      next hcomplete => simp [hcomplete]
      next hcomplete => simp [hcomplete]

/-- **Writing a round and reading a document are inverse.** A round comes back from the text of its
own document exactly if each type that it mentions is one that some text expresses, and these are
exactly the rounds that there is any document for. -/
theorem ofText_text_toJson (round : Round) :
    (ofText round.toJson.text = .ok round ↔
        ∀ type ∈ round.mentionedTypes, type.IsExpressible) ∧
      ((∃ text, ofText text = .ok round) ↔
        ∀ type ∈ round.mentionedTypes, type.IsExpressible) := by
  have hread : ∀ text, ofText text = .ok round →
      ∀ type ∈ round.mentionedTypes, type.IsExpressible :=
    fun text h => Reader.yields_round _ _ (ofText_eq_ok_iff.1 h).1
  have hwrite : (∀ type ∈ round.mentionedTypes, type.IsExpressible) →
      ofText round.toJson.text = .ok round := by
    intro h
    rw [ofText_eq_ok_iff, Json.Reading.ofText_text]
    exact ⟨Reader.round_toJson h, rfl⟩
  exact ⟨⟨hread _, hwrite⟩, fun ⟨text, h⟩ => hread text h, fun h => ⟨_, hwrite h⟩⟩

end Round

end FluentHttp
