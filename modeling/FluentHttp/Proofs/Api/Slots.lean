import FluentHttp.Api.Accessor

/-!
# FluentHttp.Proofs.Api.Slots

How the accessors of a parser take the parameters of a constructor. Each token of a constructor
argument is a parameter of the accessor, of the class token type of one of the type parameters
(`exists_param_of_token`). The types of the accessor's parameters tell the types of the
constructor's as long as the constructor takes no array of type tokens and no class tokens of its
own (`map_type_eq_of_slotTypes_eq`).
-/

namespace FluentHttp.Api

variable {typeParams unused : List TypeParam}

/-- What a parameter of the constructor becomes: an array of type tokens is a class token for each
type parameter, a single type token is one for the next type parameter, and everything else is
passed on, single type tokens that are left over included. -/
theorem slots_cons_cases (typeParams unused : List TypeParam) (param : Parameter)
    (rest : List Parameter) :
    (param.type.isArrayOf .reflectType = true ∧
      slots typeParams unused (param :: rest) =
        { params := typeParams.map tokenParam
          source := .tokenArray ((typeParams.map tokenParam).map (·.name)) } ::
            slots typeParams unused rest) ∨
    (∃ next later, unused = next :: later ∧ param.type.isArrayOf .reflectType = false ∧
      param.type.isLibrary .reflectType = true ∧
      slots typeParams unused (param :: rest) =
        { params := [{ name := param.name, type := classToken next }]
          source := .token param.name } :: slots typeParams later rest) ∨
    (param.type.isArrayOf .reflectType = false ∧
      (unused = [] ∨ param.type.isLibrary .reflectType = false) ∧
      slots typeParams unused (param :: rest) =
        { params := [param], source := .plain param.name } :: slots typeParams unused rest) := by
  by_cases harray : param.type.isArrayOf .reflectType = true
  · exact .inl ⟨harray, by rw [slots, if_pos harray]⟩
  · rw [Bool.not_eq_true] at harray
    cases unused with
    | nil => exact .inr (.inr ⟨harray, .inl rfl, by simp [slots, harray]⟩)
    | cons next later =>
        by_cases htoken : param.type.isLibrary .reflectType = true
        · exact .inr (.inl ⟨next, later, rfl, harray, htoken, by simp [slots, harray, htoken]⟩)
        · rw [Bool.not_eq_true] at htoken
          exact .inr (.inr ⟨harray, .inr htoken, by simp [slots, harray, htoken]⟩)

/-! ### Tokens -/

/-- A parameter that takes type tokens, a single one or an array of them. -/
def TakesToken (param : Parameter) : Prop :=
  param.type.isLibrary .reflectType = true ∨ param.type.isArrayOf .reflectType = true

/-- While there are type parameters without a token, an accessor takes tokens exactly if the
constructor does. -/
theorem any_isToken_slots (hunused : unused ≠ []) (params : List Parameter) :
    (slots typeParams unused params).any (·.source.isToken) = true ↔
      ∃ param ∈ params, TakesToken param := by
  induction params with
  | nil => simp [slots]
  | cons param rest ih =>
      simp only [List.mem_cons, exists_eq_or_imp, TakesToken]
      rcases slots_cons_cases typeParams unused param rest with
        ⟨harray, hslots⟩ | ⟨next, later, rfl, -, htoken, hslots⟩ | ⟨harray, hplain, hslots⟩
      · simp [hslots, ArgSource.isToken, harray]
      · simp [hslots, ArgSource.isToken, htoken]
      · have htoken := hplain.resolve_left hunused
        simpa [hslots, ArgSource.isToken, harray, htoken, TakesToken] using ih

/-- A token is a parameter of the accessor, of the class token type of a type parameter. -/
theorem exists_param_of_token (hunused : ∀ typeParam ∈ unused, typeParam ∈ typeParams)
    {params : List Parameter} {slot : Slot} (hslot : slot ∈ slots typeParams unused params)
    {token : String} (htoken : token ∈ slot.source.tokens) :
    ∃ typeParam ∈ typeParams,
      ({ name := token, type := classToken typeParam } : Parameter) ∈ slot.params := by
  induction params generalizing unused with
  | nil => simp [slots] at hslot
  | cons param rest ih =>
      rcases slots_cons_cases typeParams unused param rest with
        ⟨-, hslots⟩ | ⟨next, later, rfl, -, -, hslots⟩ | ⟨-, -, hslots⟩
      · rcases List.mem_cons.1 (hslots ▸ hslot) with rfl | hslot
        · obtain ⟨_, hparam, rfl⟩ := List.mem_map.1 htoken
          obtain ⟨typeParam, hmem, rfl⟩ := List.mem_map.1 hparam
          exact ⟨typeParam, hmem, List.mem_map.2 ⟨typeParam, hmem, rfl⟩⟩
        · exact ih hunused hslot
      · rcases List.mem_cons.1 (hslots ▸ hslot) with rfl | hslot
        · obtain rfl : token = param.name := by simpa [ArgSource.tokens] using htoken
          exact ⟨next, hunused next (by simp), by simp⟩
        · exact ih (fun typeParam hmem => hunused typeParam (by simp [hmem])) hslot
      · rcases List.mem_cons.1 (hslots ▸ hslot) with rfl | hslot
        · simp [ArgSource.tokens] at htoken
        · exact ih hunused hslot

/-! ### Types -/

/-- The types of the parameters that an accessor takes. -/
def slotTypes (slots : List Slot) : List TypeExpr :=
  (slots.flatMap (·.params)).map (·.type)

@[simp] theorem slotTypes_nil : slotTypes [] = [] :=
  rfl

/-- A type that accessors put nothing else in the place of, or that they leave no doubt about: no
array of type tokens and no class token of a type parameter. A type token has no type arguments. -/
structure IsPassable (typeParams : List TypeParam) (type : TypeExpr) : Prop where
  noArray : type.isArrayOf .reflectType = false
  noClassToken : type ∉ typeParams.map classToken
  raw : type.isLibrary .reflectType = true → type = .ofLibrary .reflectType []

/-- What a passable parameter becomes: a class token if it is a type token whose turn it is, and
else itself. -/
theorem slotTypes_cons_of_isPassable {param : Parameter} (h : IsPassable typeParams param.type)
    (unused : List TypeParam) (rest : List Parameter) :
    (∃ next later, unused = next :: later ∧ param.type = .ofLibrary .reflectType [] ∧
      slotTypes (slots typeParams unused (param :: rest)) =
        classToken next :: slotTypes (slots typeParams later rest)) ∨
    slotTypes (slots typeParams unused (param :: rest)) =
      param.type :: slotTypes (slots typeParams unused rest) := by
  rcases slots_cons_cases typeParams unused param rest with
    ⟨harray, -⟩ | ⟨next, later, rfl, -, htoken, hslots⟩ | ⟨-, -, hslots⟩
  · exact absurd harray (by simp [h.noArray])
  · exact .inl ⟨next, later, rfl, h.raw htoken, by rw [hslots]; rfl⟩
  · exact .inr (by rw [hslots]; rfl)

theorem slotTypes_cons_ne_nil {param : Parameter} (h : IsPassable typeParams param.type)
    (unused : List TypeParam) (rest : List Parameter) :
    slotTypes (slots typeParams unused (param :: rest)) ≠ [] := by
  rcases slotTypes_cons_of_isPassable h unused rest with
    ⟨_, _, -, -, hslots⟩ | hslots <;> simp [hslots]

/-- A type that is passed on is no class token. -/
theorem IsPassable.ne_classToken {type : TypeExpr} (h : IsPassable typeParams type)
    {typeParam : TypeParam} (hmem : typeParam ∈ typeParams) : type ≠ classToken typeParam := by
  rintro rfl
  exact h.noClassToken (List.mem_map.2 ⟨typeParam, hmem, rfl⟩)

/-- The types of an accessor's parameters tell the types of the constructor's. -/
theorem map_type_eq_of_slotTypes_eq (hunused : ∀ typeParam ∈ unused, typeParam ∈ typeParams)
    {params others : List Parameter} (hparams : ∀ param ∈ params, IsPassable typeParams param.type)
    (hothers : ∀ other ∈ others, IsPassable typeParams other.type)
    (h : slotTypes (slots typeParams unused params) = slotTypes (slots typeParams unused others)) :
    params.map (·.type) = others.map (·.type) := by
  induction params generalizing unused others with
  | nil =>
      cases others with
      | nil => rfl
      | cons other others =>
          rw [slots, slotTypes_nil] at h
          exact absurd h.symm (slotTypes_cons_ne_nil (hothers other (by simp)) unused others)
  | cons param params ih =>
      have hparam := hparams param (by simp)
      cases others with
      | nil =>
          rw [slots, slotTypes_nil] at h
          exact absurd h (slotTypes_cons_ne_nil hparam unused params)
      | cons other others =>
          have hother := hothers other (by simp)
          have hparams : ∀ param ∈ params, IsPassable typeParams param.type :=
            fun param hmem => hparams param (by simp [hmem])
          have hothers : ∀ other ∈ others, IsPassable typeParams other.type :=
            fun other hmem => hothers other (by simp [hmem])
          rw [List.map_cons, List.map_cons]
          rcases slotTypes_cons_of_isPassable hparam unused params with
            ⟨next, later, rfl, htype, hslots⟩ | hslots
          · have hlater : ∀ typeParam ∈ later, typeParam ∈ typeParams :=
              fun typeParam hmem => hunused typeParam (by simp [hmem])
            rcases slotTypes_cons_of_isPassable hother (next :: later) others with
              ⟨_, _, ⟨rfl, rfl⟩, htype', hslots'⟩ | hslots'
            · -- both are type tokens, so their types agree and the rest goes on alike
              rw [hslots, hslots'] at h
              rw [htype, htype', ih hlater hparams hothers (List.cons.inj h).2]
            · rw [hslots, hslots'] at h
              exact absurd (List.cons.inj h).1.symm (hother.ne_classToken (hunused next (by simp)))
          · rcases slotTypes_cons_of_isPassable hother unused others with
              ⟨next, later, rfl, -, hslots'⟩ | hslots'
            · rw [hslots, hslots'] at h
              exact absurd (List.cons.inj h).1 (hparam.ne_classToken (hunused next (by simp)))
            · rw [hslots, hslots'] at h
              rw [(List.cons.inj h).1, ih hunused hparams hothers (List.cons.inj h).2]

end FluentHttp.Api
