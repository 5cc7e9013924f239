import FluentHttp.Proofs.Java.Lexing
import Mathlib.Logic.Relation

/-!
# FluentHttp.Proofs.Java.Grammar

The grammar of expressions: how their tokens belong together.

Selections and calls bind tightest, then casts and signs, and comparisons, which group from the
left, bind weakest (`Derives`). A reader that goes over the tokens once and looks ahead only to
tell a cast from parentheses finds every derivation, so tokens are grouped in one way at most
(`Derives.unique`). The other fact about derivations is how many tokens a grouping needs at least
(`Derives.size_le`): two parentheses wherever a part binds too weakly for its place.
-/

namespace FluentHttp.Java

/-! ### Groupings -/

/-- How the tokens of an expression belong together. -/
inductive Group where
  | word (text : String)
  | string (value : String)
  | select (target : Group) (name : String)
  | invoke (callee : Group) (args : List Group)
  | cast (type : List Token) (operand : Group)
  | negative (operand : Group)
  | compare (op : Comparison) (left right : Group)
  deriving Repr, BEq

/-- How tightly the parts of an expression hold together, tightest first. -/
inductive Rank where
  | primary
  /-- Casts, and what binds tighter. -/
  | signless
  /-- Signs, and what binds tighter. -/
  | unary
  | comparison
  deriving DecidableEq, Repr

namespace Rank

/-- The place of a rank in their order. -/
def level : Rank → Nat
  | primary => 0
  | signless => 1
  | unary => 2
  | comparison => 3

theorem level_le_comparison (rank : Rank) : rank.level ≤ comparison.level := by
  cases rank <;> decide

end Rank

/-- Tokens that can be a type. -/
structure IsType (type : List Token) : Prop where
  ne_nil : type ≠ []
  isTypePart : ∀ t ∈ type, t.isTypePart = true

/-- Whether tokens are a primitive type. -/
def isPrimitiveType : List Token → Bool
  | [.word text] => (Primitive.ofKeyword? text).isSome
  | _ => false

/-- What a cast takes as its operand. A sign behind any other type than a primitive one would be
that of a difference. -/
def castRank (type : List Token) : Rank :=
  if isPrimitiveType type then .unary else .signless

mutual

/-- `Derives rank ts group`: the tokens `ts` are an expression of this rank and belong together
like this. -/
inductive Derives : Rank → List Token → Group → Prop
  | word (text : String) : Derives .primary [.word text] (.word text)
  | string (value : String) : Derives .primary [.string value] (.string value)
  | parentheses {ts : List Token} {group : Group} (h : Derives .comparison ts group) :
      Derives .primary (.mark '(' :: (ts ++ [.mark ')'])) group
  | select {ts : List Token} {target : Group} (h : Derives .primary ts target) (name : String) :
      Derives .primary (ts ++ [.mark '.', .word name]) (.select target name)
  | localCall (method : String) {ts : List Token} {args : List Group}
      (hargs : DerivesArgs ts args) :
      Derives .primary (.word method :: .mark '(' :: (ts ++ [.mark ')']))
        (.invoke (.word method) args)
  | call {ts argTokens : List Token} {target : Group} {args : List Group}
      (h : Derives .primary ts target) (method : String) (hargs : DerivesArgs argTokens args) :
      Derives .primary (ts ++ .mark '.' :: .word method :: .mark '(' :: (argTokens ++ [.mark ')']))
        (.invoke (.select target method) args)
  | ofPrimary {ts : List Token} {group : Group} (h : Derives .primary ts group) :
      Derives .signless ts group
  | cast {type ts : List Token} {operand : Group} (htype : IsType type)
      (h : Derives (castRank type) ts operand) :
      Derives .signless (.mark '(' :: (type ++ .mark ')' :: ts)) (.cast type operand)
  | ofSignless {ts : List Token} {group : Group} (h : Derives .signless ts group) :
      Derives .unary ts group
  | negative {ts : List Token} {operand : Group} (h : Derives .unary ts operand) :
      Derives .unary (.mark '-' :: ts) (.negative operand)
  | ofUnary {ts : List Token} {group : Group} (h : Derives .unary ts group) :
      Derives .comparison ts group
  | compare {ts others : List Token} {left right : Group} (op : Comparison)
      (hleft : Derives .comparison ts left) (hright : Derives .unary others right) :
      Derives .comparison (ts ++ .comparison op :: others) (.compare op left right)

/-- Tokens that are arguments with commas between them. -/
inductive DerivesArgs : List Token → List Group → Prop
  | nil : DerivesArgs [] []
  | single {ts : List Token} {arg : Group} (h : Derives .comparison ts arg) : DerivesArgs ts [arg]
  | cons {ts others : List Token} {arg next : Group} {rest : List Group}
      (h : Derives .comparison ts arg) (hrest : DerivesArgs others (next :: rest)) :
      DerivesArgs (ts ++ .mark ',' :: others) (arg :: next :: rest)

end

/-- What binds tightly can stand where something weaker can. -/
theorem Derives.weaken {rank other : Rank} {ts : List Token} {group : Group}
    (h : Derives rank ts group) (hle : rank.level ≤ other.level) : Derives other ts group := by
  cases other with
  | primary =>
      cases rank with
      | primary => exact h
      | signless | unary | comparison => exact absurd hle (by decide)
  | signless =>
      cases rank with
      | primary => exact .ofPrimary h
      | signless => exact h
      | unary | comparison => exact absurd hle (by decide)
  | unary =>
      cases rank with
      | primary => exact .ofSignless (.ofPrimary h)
      | signless => exact .ofSignless h
      | unary => exact h
      | comparison => exact absurd hle (by decide)
  | comparison =>
      cases rank with
      | primary => exact .ofUnary (.ofSignless (.ofPrimary h))
      | signless => exact .ofUnary (.ofSignless h)
      | unary => exact .ofUnary h
      | comparison => exact h

/-! ### The size of a grouping -/

namespace Group

/-- How tightly a grouping holds together. -/
def rank : Group → Rank
  | word _ | string _ | select _ _ | invoke _ _ => .primary
  | cast _ _ => .signless
  | negative _ => .unary
  | compare _ _ _ => .comparison

/-- The number of parentheses around a grouping where a rank is expected. -/
def parentheses (expected : Rank) (group : Group) : Nat :=
  if group.rank.level ≤ expected.level then 0 else 2

mutual

/-- The number of tokens that a grouping needs. -/
def size : Group → Nat
  | word _ | string _ => 1
  | select target _ => target.size + target.parentheses .primary + 2
  | invoke callee args => callee.size + argsSize args + 2
  | cast type operand => type.length + operand.size + operand.parentheses (castRank type) + 2
  | negative operand => operand.size + operand.parentheses .unary + 1
  | compare _ left right => left.size + right.size + right.parentheses .unary + 1

/-- The number of tokens that arguments need. -/
def argsSize : List Group → Nat
  | [] => 0
  | [arg] => arg.size
  | arg :: next :: rest => arg.size + argsSize (next :: rest) + 1

end

variable {group : Group}

theorem parentheses_eq_zero_iff {expected : Rank} :
    group.parentheses expected = 0 ↔ group.rank.level ≤ expected.level := by
  unfold parentheses
  split
  · next h => exact iff_of_true rfl h
  · next h => exact iff_of_false (by decide) h

theorem parentheses_le (expected : Rank) (group : Group) : group.parentheses expected ≤ 2 := by
  unfold parentheses
  split <;> omega

theorem parentheses_antitone {expected other : Rank} (h : expected.level ≤ other.level) :
    group.parentheses other ≤ group.parentheses expected := by
  unfold parentheses
  split
  · exact Nat.zero_le _
  · next hother => rw [if_neg fun hle => hother (hle.trans h)]

end Group

mutual

/-- No derivation has fewer tokens than its grouping needs. -/
theorem Derives.size_le {rank : Rank} {ts : List Token} {group : Group}
    (h : Derives rank ts group) : group.size + group.parentheses rank ≤ ts.length := by
  match h with
  | .word _ | .string _ => exact Nat.le_refl 1
  | .parentheses h =>
      have hsize := h.size_le
      have hparens := group.parentheses_le .primary
      simp only [List.length_cons, List.length_append, List.length_nil]
      omega
  | @Derives.select ts target h name =>
      have hsize := h.size_le
      have hparens : (Group.select target name).parentheses .primary = 0 := rfl
      simp only [hparens, Group.size, List.length_cons, List.length_append, List.length_nil]
      omega
  | @Derives.localCall method ts args hargs =>
      have hsize := hargs.argsSize_le
      have hparens : (Group.invoke (.word method) args).parentheses .primary = 0 := rfl
      simp only [hparens, Group.size, List.length_cons, List.length_append, List.length_nil]
      omega
  | @Derives.call ts argTokens target args h method hargs =>
      have hsize := h.size_le
      have hargsSize := hargs.argsSize_le
      have hparens : (Group.invoke (.select target method) args).parentheses .primary = 0 := rfl
      simp only [hparens, Group.size, List.length_cons, List.length_append, List.length_nil]
      omega
  | .ofPrimary h =>
      have hsize := h.size_le
      have hparens : group.parentheses .signless ≤ group.parentheses .primary :=
        Group.parentheses_antitone (by decide)
      omega
  | @Derives.cast type ts operand htype h =>
      have hsize := h.size_le
      have hparens : (Group.cast type operand).parentheses .signless = 0 := rfl
      simp only [hparens, Group.size, List.length_cons, List.length_append]
      omega
  | .ofSignless h =>
      have hsize := h.size_le
      have hparens : group.parentheses .unary ≤ group.parentheses .signless :=
        Group.parentheses_antitone (by decide)
      omega
  | @Derives.negative ts operand h =>
      have hsize := h.size_le
      have hparens : (Group.negative operand).parentheses .unary = 0 := rfl
      simp only [hparens, Group.size, List.length_cons]
      omega
  | .ofUnary h =>
      have hsize := h.size_le
      have hparens : group.parentheses .comparison ≤ group.parentheses .unary :=
        Group.parentheses_antitone (by decide)
      omega
  | @Derives.compare ts others left right op hleft hright =>
      have hleftSize := hleft.size_le
      have hrightSize := hright.size_le
      have hparens : (Group.compare op left right).parentheses .comparison = 0 := rfl
      simp only [hparens, Group.size, List.length_cons, List.length_append]
      omega

theorem DerivesArgs.argsSize_le {ts : List Token} {args : List Group} (h : DerivesArgs ts args) :
    Group.argsSize args ≤ ts.length := by
  match h with
  | .nil => exact Nat.le_refl 0
  | .single h =>
      have hsize := h.size_le
      simp only [Group.argsSize]
      omega
  | .cons h hrest =>
      have hsize := h.size_le
      have hrestSize := hrest.argsSize_le
      simp only [Group.argsSize, List.length_cons, List.length_append]
      omega

end

/-! ### A reader -/

namespace Reader

/-- What the operand that is being read belongs to. -/
inductive Frame where
  | parentheses
  | args (callee : Group) (before : List Group)
  | negative
  | cast (type : List Token)
  | compare (op : Comparison) (left : Group)

/-- What has been read, and what is left. -/
inductive State where
  /-- In front of an operand. -/
  | operand (frames : List Frame) (rest : List Token)
  /-- Behind an operand. -/
  | after (frames : List Frame) (group : Group) (rest : List Token)

/-- Whether an operand starts here. -/
def startsOperand : List Token → Bool
  | .word _ :: _ | .string _ :: _ => true
  | .mark c :: _ => c == '(' || c == '-'
  | _ => false

/-- The type of a cast and its operand, behind the opening parenthesis. -/
def cast? (ts : List Token) : Option (List Token × List Token) :=
  match ts.dropWhile Token.isTypePart with
  | .mark ')' :: rest =>
    if startsOperand rest then some (ts.takeWhile Token.isTypePart, rest) else none
  | _ => none

/-- One step. What has been read is put together as soon as nothing that binds tighter follows. -/
def step : State → Option State
  | .operand frames (.word text :: rest) => some (.after frames (.word text) rest)
  | .operand frames (.string value :: rest) => some (.after frames (.string value) rest)
  | .operand frames (.mark '-' :: rest) => some (.operand (.negative :: frames) rest)
  | .operand frames (.mark '(' :: rest) =>
    match cast? rest with
    | some (type, rest) => some (.operand (.cast type :: frames) rest)
    | none => some (.operand (.parentheses :: frames) rest)
  | .operand (.args callee [] :: frames) (.mark ')' :: rest) =>
    some (.after frames (.invoke callee []) rest)
  | .after frames group (.mark '.' :: .word name :: rest) =>
    some (.after frames (.select group name) rest)
  | .after frames group (.mark '(' :: rest) => some (.operand (.args group [] :: frames) rest)
  | .after (.negative :: frames) group rest => some (.after frames (.negative group) rest)
  | .after (.cast type :: frames) group rest => some (.after frames (.cast type group) rest)
  | .after (.compare op left :: frames) group rest =>
    some (.after frames (.compare op left group) rest)
  | .after frames group (.comparison op :: rest) =>
    some (.operand (.compare op group :: frames) rest)
  | .after (.parentheses :: frames) group (.mark ')' :: rest) => some (.after frames group rest)
  | .after (.args callee before :: frames) group (.mark ')' :: rest) =>
    some (.after frames (.invoke callee (before ++ [group])) rest)
  | .after (.args callee before :: frames) group (.mark ',' :: rest) =>
    some (.operand (.args callee (before ++ [group]) :: frames) rest)
  | _ => none

/-- What the reader gets to. -/
def Reaches : State → State → Prop :=
  Relation.ReflTransGen fun state next => step state = some next

/-- What follows a whole operand. -/
inductive EndsOperand : List Token → Prop
  | nil : EndsOperand []
  | close (rest : List Token) : EndsOperand (.mark ')' :: rest)
  | comma (rest : List Token) : EndsOperand (.mark ',' :: rest)
  | comparison (op : Comparison) (rest : List Token) : EndsOperand (.comparison op :: rest)

/-- Frames that do not take the operand of a comparison for their own. -/
inductive TakesComparison : List Frame → Prop
  | nil : TakesComparison []
  | parentheses (frames : List Frame) : TakesComparison (.parentheses :: frames)
  | args (callee : Group) (before : List Group) (frames : List Frame) :
      TakesComparison (.args callee before :: frames)

/-- Where the reader has to be for an expression of a rank to be read as a whole. -/
def Delimits (frames : List Frame) (rest : List Token) : Rank → Prop
  | .primary => EndsOperand rest ∨ rest.head? = some (.mark '.')
  | .signless | .unary => EndsOperand rest
  | .comparison => EndsOperand rest ∧ TakesComparison frames

/-- Tokens with no closing parenthesis behind those that can be a type. -/
def NoCast (ts : List Token) : Prop :=
  ∀ t ∈ (ts.dropWhile Token.isTypePart).head?, t ≠ .mark ')'

theorem NoCast.append {ts others : List Token} (hts : NoCast ts) (hothers : NoCast others) :
    NoCast (ts ++ others) := by
  unfold NoCast
  rw [List.dropWhile_append]
  split
  · exact hothers
  · next hne =>
      obtain ⟨t, rest, hcons⟩ :=
        List.exists_cons_of_ne_nil fun hnil => hne (List.isEmpty_iff.2 hnil)
      rw [NoCast, hcons] at hts
      rw [hcons]
      exact hts

theorem cast?_append {type rest : List Token} (htype : IsType type)
    (hrest : startsOperand rest = true) :
    cast? (type ++ .mark ')' :: rest) = some (type, rest) := by
  have htake : (type ++ .mark ')' :: rest).takeWhile Token.isTypePart = type := by
    rw [List.takeWhile_append_of_pos htype.isTypePart]
    exact List.append_nil type
  have hdrop : (type ++ .mark ')' :: rest).dropWhile Token.isTypePart = .mark ')' :: rest := by
    rw [List.dropWhile_append_of_pos htype.isTypePart]
    rfl
  simp only [cast?, htake, hdrop, hrest, if_true]

theorem cast?_eq_none {ts rest : List Token} (hts : NoCast ts)
    (hrest : startsOperand rest = false) : cast? (ts ++ .mark ')' :: rest) = none := by
  unfold cast?
  rw [List.dropWhile_append]
  cases hdrop : ts.dropWhile Token.isTypePart with
  | nil =>
      have hclose : (.mark ')' :: rest).dropWhile Token.isTypePart = .mark ')' :: rest := rfl
      simp only [List.isEmpty_nil, if_true, hclose, hrest, Bool.false_eq_true, if_false]
  | cons t others =>
      have hne : t ≠ .mark ')' := hts t (by rw [hdrop]; rfl)
      simp only [List.isEmpty_cons, Bool.false_eq_true, if_false, List.cons_append]
      split
      · next heq => exact absurd (List.cons.inj heq).1 hne
      · rfl

theorem noCast_cons_of_isTypePart {t : Token} (h : t.isTypePart = true) {ts : List Token}
    (hts : NoCast ts) : NoCast (t :: ts) := by
  rwa [NoCast, List.dropWhile_cons_of_pos h]

theorem noCast_cons_of_ne {t : Token} (h : t.isTypePart = false) (hne : t ≠ .mark ')')
    (ts : List Token) : NoCast (t :: ts) := by
  rw [NoCast, List.dropWhile_cons_of_neg (by simp [h])]
  rintro other hother
  rwa [← Option.some.inj hother]

variable {frames : List Frame} {rest : List Token}

theorem startsOperand_of_delimits (h : Delimits frames rest .primary) :
    startsOperand rest = false := by
  rcases h with hends | hdot
  · cases hends <;> rfl
  · obtain ⟨others, rfl⟩ := List.head?_eq_some_iff.1 hdot
    rfl

/-- A frame that waits for an operand takes it when the operand is whole. -/
theorem step_negative (h : EndsOperand rest) (group : Group) :
    step (.after (.negative :: frames) group rest) =
      some (.after frames (.negative group) rest) := by
  cases h <;> rfl

theorem step_cast (h : EndsOperand rest) (type : List Token) (group : Group) :
    step (.after (.cast type :: frames) group rest) =
      some (.after frames (.cast type group) rest) := by
  cases h <;> rfl

theorem step_compare (h : EndsOperand rest) (op : Comparison) (left group : Group) :
    step (.after (.compare op left :: frames) group rest) =
      some (.after frames (.compare op left group) rest) := by
  cases h <;> rfl

theorem step_comparison (h : TakesComparison frames) (op : Comparison) (group : Group) :
    step (.after frames group (.comparison op :: rest)) =
      some (.operand (.compare op group :: frames) rest) := by
  cases h <;> rfl

theorem step_dot (group : Group) (name : String) :
    step (.after frames group (.mark '.' :: .word name :: rest)) =
      some (.after frames (.select group name) rest) := by
  rw [step]

theorem step_open (group : Group) :
    step (.after frames group (.mark '(' :: rest)) =
      some (.operand (.args group [] :: frames) rest) := by
  rw [step]

end Reader

open Reader

/-- A derivation does not look like the type of a cast with more behind it. -/
theorem Derives.noCast {rank : Rank} {ts : List Token} {group : Group}
    (h : Derives rank ts group) : NoCast ts := by
  have hopen (ts : List Token) : NoCast (.mark '(' :: ts) :=
    noCast_cons_of_ne rfl (by decide) ts
  match h with
  | .word _ => exact noCast_cons_of_isTypePart rfl nofun
  | .string _ => exact noCast_cons_of_ne rfl (by simp) []
  | .parentheses _ | .cast _ _ => exact hopen _
  | .localCall _ _ => exact noCast_cons_of_isTypePart rfl (hopen _)
  | .select h _ =>
      exact h.noCast.append (noCast_cons_of_isTypePart rfl (noCast_cons_of_isTypePart rfl nofun))
  | .call h _ _ =>
      exact h.noCast.append
        (noCast_cons_of_isTypePart rfl (noCast_cons_of_isTypePart rfl (hopen _)))
  | .ofPrimary h | .ofSignless h | .ofUnary h => exact h.noCast
  | .negative _ => exact noCast_cons_of_ne rfl (by decide) _
  | .compare op hleft _ => exact hleft.noCast.append (noCast_cons_of_ne rfl (by simp) _)

/-- A derivation starts like an operand. -/
theorem Derives.startsOperand_append {rank : Rank} {ts : List Token} {group : Group}
    (h : Derives rank ts group) (rest : List Token) : startsOperand (ts ++ rest) = true := by
  match h with
  | .word _ | .string _ | .parentheses _ | .cast _ _ | .localCall _ _ | .negative _ => rfl
  | .select h _ | .call h _ _ | .compare _ h _ =>
      rw [List.append_assoc]
      exact h.startsOperand_append _
  | .ofPrimary h | .ofSignless h | .ofUnary h => exact h.startsOperand_append rest

mutual

/-- The reader goes over a derivation and has its grouping then. -/
theorem Derives.reaches {rank : Rank} {ts : List Token} {group : Group}
    (h : Derives rank ts group) {frames : List Frame} {rest : List Token}
    (hrest : Delimits frames rest rank) :
    Reaches (.operand frames (ts ++ rest)) (.after frames group rest) := by
  match h with
  | .word text => exact .single rfl
  | .string value => exact .single rfl
  | @Derives.parentheses ts group h =>
      have hstep : step (.operand frames (.mark '(' :: (ts ++ .mark ')' :: rest))) =
          some (.operand (.parentheses :: frames) (ts ++ .mark ')' :: rest)) := by
        simp only [step, cast?_eq_none h.noCast (startsOperand_of_delimits hrest)]
      have hinside := h.reaches ⟨.close rest, .parentheses frames⟩
      rw [List.cons_append, List.append_assoc]
      exact .head hstep (hinside.tail rfl)
  | @Derives.select ts target h name =>
      have htarget : Delimits frames (.mark '.' :: .word name :: rest) .primary := .inr rfl
      rw [List.append_assoc]
      exact (h.reaches htarget).tail (step_dot target name)
  | @Derives.localCall method ts args hargs =>
      have hcall := hargs.reaches (.word method) (fun _ => rfl) frames rest
      rw [List.cons_append, List.cons_append, List.append_assoc]
      exact .head rfl (.head (step_open _) hcall)
  | @Derives.call ts argTokens target args h method hargs =>
      have htarget : Delimits frames
          (.mark '.' :: .word method :: .mark '(' :: (argTokens ++ .mark ')' :: rest)) .primary :=
        .inr rfl
      have hcall := hargs.reaches (.select target method) (fun _ => rfl) frames rest
      rw [List.append_assoc, List.cons_append, List.cons_append, List.cons_append,
        List.append_assoc]
      exact (h.reaches htarget).trans (.head (step_dot _ _) (.head (step_open _) hcall))
  | .ofPrimary h => exact h.reaches (.inl hrest)
  | @Derives.cast type ts operand htype h =>
      have hstep : step (.operand frames (.mark '(' :: (type ++ .mark ')' :: (ts ++ rest)))) =
          some (.operand (.cast type :: frames) (ts ++ rest)) := by
        simp only [step, cast?_append htype (h.startsOperand_append rest)]
      have hoperand : Delimits (.cast type :: frames) rest (castRank type) := by
        unfold castRank
        split <;> exact hrest
      rw [List.cons_append, List.append_assoc]
      exact .head hstep ((h.reaches hoperand).tail (step_cast hrest type operand))
  | .ofSignless h => exact h.reaches hrest
  | @Derives.negative ts operand h =>
      have hoperand : Delimits (.negative :: frames) rest .unary := hrest
      exact .head rfl ((h.reaches hoperand).tail (step_negative hrest operand))
  | .ofUnary h => exact h.reaches hrest.1
  | @Derives.compare ts others left right op hleft hright =>
      obtain ⟨hends, htakes⟩ := hrest
      have hleftReads := hleft.reaches ⟨.comparison op (others ++ rest), htakes⟩
      have hrightReads : Reaches (.operand (.compare op left :: frames) (others ++ rest)) _ :=
        hright.reaches hends
      rw [List.append_assoc]
      exact hleftReads.trans (.head (step_comparison htakes op left)
        (hrightReads.tail (step_compare hends op left right)))

/-- The reader goes over arguments and the parenthesis behind them. -/
theorem DerivesArgs.reaches {ts : List Token} {args : List Group} (h : DerivesArgs ts args)
    (callee : Group) {before : List Group} (hbefore : args = [] → before = [])
    (frames : List Frame) (rest : List Token) :
    Reaches (.operand (.args callee before :: frames) (ts ++ .mark ')' :: rest))
      (.after frames (.invoke callee (before ++ args)) rest) := by
  match h with
  | .nil =>
      obtain rfl := hbefore rfl
      exact .single rfl
  | .single h =>
      have harg := h.reaches ⟨.close rest, .args callee before frames⟩
      exact harg.tail rfl
  | @DerivesArgs.cons ts others arg next args h hargs =>
      have harg := h.reaches ⟨.comma (others ++ .mark ')' :: rest), .args callee before frames⟩
      have hnotFirst : next :: args = [] → before ++ [arg] = [] := nofun
      have hothers := hargs.reaches callee hnotFirst frames rest
      rw [List.append_assoc, List.append_cons before]
      exact harg.trans (.head rfl hothers)

end

/-- Tokens are grouped in one way at most. -/
theorem Derives.unique {ts : List Token} {group other : Group}
    (hgroup : Derives .comparison ts group) (hother : Derives .comparison ts other) :
    group = other := by
  have hstuck {group : Group} {state : State} (h : Reaches (.after [] group []) state) :
      state = .after [] group [] := by
    rcases h.cases_head with heq | ⟨next, hstep, -⟩
    · exact heq.symm
    · cases hstep
  have hends : Delimits [] [] .comparison := ⟨.nil, .nil⟩
  have hright : Relator.RightUnique fun state next => step state = some next :=
    fun _ _ _ hnext hother => Option.some.inj (hnext.symm.trans hother)
  rcases Relation.ReflTransGen.total_of_right_unique hright (hgroup.reaches hends)
    (hother.reaches hends) with h | h
  · cases hstuck h
    rfl
  · cases hstuck h
    rfl

end FluentHttp.Java
