import FluentHttp.Proofs.Java.Grammar

/-!
# FluentHttp.Proofs.Java.Grouping

Whether a printed expression is read as the tree it was printed from.

The printer puts parentheses around casts and comparisons that something is selected from, and
nowhere else. So a tree comes back exactly if no comparison is the operand of a cast or the right
side of a comparison, nothing is selected from a number, and no negative number is cast to a type
that is not primitive (`Expr.readsAs_iff_readable`).

One half builds the derivation along the tree. For the other half the tokens are counted: a printed
tree never has more than its grouping needs, and has enough of them only if it is readable.
-/

namespace FluentHttp.Java

open FluentHttp.Text TypeExpr

/-! ### The grouping of a tree -/

/-- A name of several parts, as selections. -/
def pathGroup : List String → Group
  | [] => .word ""
  | first :: rest => rest.foldl .select (.word first)

mutual

/-- How the parts of an expression belong together. -/
def Expr.group (naming : String → String) : Expr → Group
  | .this => .word "this"
  | .variable name => .word name
  | .null => .word "null"
  | .int value =>
    if value < 0 then .negative (.word (digits value)) else .word (digits value)
  | .string value => .string value
  | .field target name => .select (target.group naming) name
  | .staticField owner name => .select (pathGroup (segments '.' (naming owner.name))) name
  | .call target method args =>
    .invoke (.select (target.group naming) method) (Expr.argGroups naming args)
  | .localCall method args => .invoke (.word method) (Expr.argGroups naming args)
  | .staticCall owner method args =>
    .invoke (.select (pathGroup (segments '.' (naming owner.name))) method)
      (Expr.argGroups naming args)
  | .cast type expr => .cast (typeTokens naming type) (expr.group naming)
  | .compare op left right => .compare op (left.group naming) (right.group naming)
  | expr => .word (expr.text naming)

/-- How the parts of arguments belong together. -/
def Expr.argGroups (naming : String → String) : List Expr → List Group
  | [] => []
  | arg :: rest => arg.group naming :: Expr.argGroups naming rest

end

/-- `ReadsAs text group`: the text is an expression whose parts belong together like this. -/
def ReadsAs (text : String) (group : Group) : Prop :=
  Derives .comparison (tokens text.toList) group

/-! ### Readable trees -/

namespace Expr

/-- A number. -/
def isInt : Expr → Bool
  | .int _ => true
  | _ => false

/-- A negative number, which is printed with a sign. -/
def isNegative : Expr → Bool
  | .int value => value < 0
  | _ => false

/-- A comparison. -/
def isComparison : Expr → Bool
  | .compare _ _ _ => true
  | _ => false

mutual

/-- No part of the expression needs parentheses that the printer leaves out. -/
def Readable (naming : String → String) : Expr → Prop
  | .field target _ => target.isInt = false ∧ target.Readable naming
  | .call target _ args =>
    target.isInt = false ∧ target.Readable naming ∧ Expr.AllReadable naming args
  | .localCall _ args | .staticCall _ _ args => Expr.AllReadable naming args
  | .cast type expr =>
    expr.isComparison = false ∧
      (expr.isNegative = true → isPrimitiveType (typeTokens naming type) = true) ∧
      expr.Readable naming
  | .compare _ left right =>
    right.isComparison = false ∧ left.Readable naming ∧ right.Readable naming
  | _ => True

/-- No part of the expressions needs parentheses that the printer leaves out. -/
def AllReadable (naming : String → String) : List Expr → Prop
  | [] => True
  | expr :: rest => expr.Readable naming ∧ Expr.AllReadable naming rest

end

variable {naming : String → String}

theorem parentheses_castRank_eq_zero_iff {expr : Expr} {type : List Token} :
    (expr.group naming).parentheses (castRank type) = 0 ↔
      expr.isComparison = false ∧ (expr.isNegative = true → isPrimitiveType type = true) := by
  cases expr with
  | int value =>
      by_cases hvalue : value < 0 <;> cases htype : isPrimitiveType type <;>
        simp [group, hvalue, castRank, htype, Group.parentheses, Group.rank, Rank.level,
          isComparison, isNegative]
  | _ =>
      cases htype : isPrimitiveType type <;>
        simp [group, castRank, htype, Group.parentheses, Group.rank, Rank.level, isComparison,
          isNegative]

theorem parentheses_unary_eq_zero_iff {expr : Expr} :
    (expr.group naming).parentheses .unary = 0 ↔ expr.isComparison = false := by
  cases expr with
  | int value =>
      by_cases hvalue : value < 0 <;>
        simp [group, hvalue, Group.parentheses, Group.rank, Rank.level, isComparison]
  | _ => simp [group, Group.parentheses, Group.rank, Rank.level, isComparison]

theorem parentheses_primary_eq_zero {expr : Expr} (h : expr.mayEndInNumber = false) :
    (expr.group naming).parentheses .primary = 0 := by
  cases expr with
  | int _ | cast _ _ | compare _ _ _ => cases h
  | _ => rfl

end Expr

/-! ### The derivation of a readable tree -/

theorem pathTokens_cons (first : String) (rest : List String) :
    pathTokens (first :: rest) =
      .word first :: rest.flatMap fun name => [.mark '.', .word name] := by
  induction rest generalizing first with
  | nil => rfl
  | cons next rest ih => rw [pathTokens, ih, List.flatMap_cons]; rfl

theorem derives_foldl_select {ts : List Token} {group : Group} (h : Derives .primary ts group)
    (names : List String) :
    Derives .primary (ts ++ names.flatMap fun name => [.mark '.', .word name])
      (names.foldl .select group) := by
  induction names generalizing ts group with
  | nil => simpa using h
  | cons name rest ih =>
      have hrest := ih (h.select name)
      rwa [List.append_assoc] at hrest

theorem length_le_size_foldl_select {ts : List Token} {group : Group} (h : ts.length ≤ group.size)
    (names : List String) :
    (ts ++ names.flatMap fun name => [Token.mark '.', .word name]).length ≤
      (names.foldl .select group).size := by
  induction names generalizing ts group with
  | nil => simpa using h
  | cons name rest ih =>
      have hsize : (ts ++ [Token.mark '.', .word name]).length ≤ (group.select name).size := by
        simp only [List.length_append, List.length_cons, List.length_nil, Group.size]
        omega
      have hrest := ih hsize
      rwa [List.append_assoc] at hrest

section

variable {naming : String → String}

theorem derives_path {names : List String} (h : names ≠ []) :
    Derives .primary (pathTokens names) (pathGroup names) := by
  obtain ⟨first, rest, rfl⟩ := List.exists_cons_of_ne_nil h
  rw [pathTokens_cons]
  exact derives_foldl_select (.word first) rest

theorem length_pathTokens_le (names : List String) :
    (pathTokens names).length ≤ (pathGroup names).size := by
  cases names with
  | nil => exact Nat.zero_le _
  | cons first rest =>
      have hword : [Token.word first].length ≤ (Group.word first).size := Nat.le_refl 1
      rw [pathTokens_cons]
      exact length_le_size_foldl_select hword rest

theorem Expr.derives_receiver {target : Expr} {ts : List Token} (hint : target.isInt = false)
    (h : Derives (target.group naming).rank ts (target.group naming)) :
    ∃ receiver, target.selecting ts = receiver ++ [.mark '.'] ∧
      Derives .primary receiver (target.group naming) := by
  obtain ⟨value, rfl⟩ | ⟨-, hselecting⟩ | ⟨-, hend, hselecting⟩ := target.receiver_cases
  · cases hint
  · refine ⟨.mark '(' :: (ts ++ [.mark ')']), by simp [hselecting], .parentheses ?_⟩
    exact h.weaken (Rank.level_le_comparison _)
  · refine ⟨ts, hselecting ts, h.weaken ?_⟩
    exact Group.parentheses_eq_zero_iff.1 (parentheses_primary_eq_zero hend)

mutual

/-- A readable tree is a derivation. -/
theorem Expr.Plain.derives {expr : Expr} (h : expr.Plain naming)
    (hreadable : expr.Readable naming) :
    Derives (expr.group naming).rank (expr.printed naming) (expr.group naming) := by
  cases h with
  | this | var _ | null => exact .word _
  | string value => exact .string value
  | int value =>
      rw [Expr.group, Expr.printed, signTokens]
      split
      · exact .negative (.ofSignless (.ofPrimary (.word _)))
      · exact .word _
  | @field target name htarget hname =>
      obtain ⟨hint, htargetReadable⟩ := hreadable
      obtain ⟨receiver, hreceiver, hderives⟩ :=
        Expr.derives_receiver hint (htarget.derives htargetReadable)
      rw [Expr.group, Expr.printed, hreceiver, List.append_assoc]
      exact hderives.select name
  | @staticField owner name howner hname =>
      exact (derives_path (segments_ne_nil _)).select name
  | @call target method args htarget hmethod hargs =>
      obtain ⟨hint, htargetReadable, hargsReadable⟩ := hreadable
      obtain ⟨receiver, hreceiver, hderives⟩ :=
        Expr.derives_receiver hint (htarget.derives htargetReadable)
      rw [Expr.group, Expr.printed, hreceiver, List.append_assoc]
      exact hderives.call method (hargs.derivesArgs hargsReadable)
  | @localCall method args hmethod hargs =>
      exact .localCall method (hargs.derivesArgs hreadable)
  | @staticCall owner method args howner hmethod hargs =>
      exact (derives_path (segments_ne_nil _)).call method (hargs.derivesArgs hreadable)
  | @cast type expr htype hexpr =>
      obtain ⟨hcomparison, hnegative, hoperand⟩ := hreadable
      have hrank : (expr.group naming).parentheses (castRank (typeTokens naming type)) = 0 :=
        Expr.parentheses_castRank_eq_zero_iff.2 ⟨hcomparison, hnegative⟩
      exact .cast ⟨typeTokens_ne_nil htype, isTypePart_of_mem_typeTokens htype⟩
        ((hexpr.derives hoperand).weaken (Group.parentheses_eq_zero_iff.1 hrank))
  | @compare op left right hleft hright =>
      obtain ⟨hcomparison, hleftReadable, hrightReadable⟩ := hreadable
      have hrank : (right.group naming).parentheses .unary = 0 :=
        Expr.parentheses_unary_eq_zero_iff.2 hcomparison
      exact .compare op ((hleft.derives hleftReadable).weaken (Rank.level_le_comparison _))
        ((hright.derives hrightReadable).weaken (Group.parentheses_eq_zero_iff.1 hrank))

theorem Expr.AllPlain.derivesArgs {args : List Expr} (h : Expr.AllPlain naming args)
    (hreadable : Expr.AllReadable naming args) :
    DerivesArgs (Expr.argsPrinted naming args) (Expr.argGroups naming args) := by
  cases h with
  | nil => exact .nil
  | @cons expr rest hexpr hrest =>
      obtain ⟨hexprReadable, hrestReadable⟩ := hreadable
      have hfirst := (hexpr.derives hexprReadable).weaken (Rank.level_le_comparison _)
      cases rest with
      | nil => exact .single hfirst
      | cons next rest => exact .cons hfirst (hrest.derivesArgs hrestReadable)

end

/-! ### The tokens of a tree -/

/-- A receiver has as many tokens as it needs, unless it is a number. -/
theorem Expr.length_selecting (target : Expr) (ts : List Token) :
    target.isInt = true ∧ (target.selecting ts).length ≤
        (target.group naming).size + (target.group naming).parentheses .primary ∨
      target.isInt = false ∧ (target.selecting ts).length =
        ts.length + (target.group naming).parentheses .primary + 1 := by
  obtain ⟨value, rfl⟩ | ⟨hopen, hselecting⟩ | ⟨hopen, hend, hselecting⟩ := target.receiver_cases
  · left
    by_cases hvalue : value < 0 <;>
      simp [isInt, selecting, signTokens, group, hvalue, Group.size, Group.parentheses, Group.rank,
        Rank.level]
  · right
    have hparentheses : (target.group naming).parentheses .primary = 2 := by
      cases target with
      | cast _ _ | compare _ _ _ => rfl
      | _ => cases hopen
    have hint : target.isInt = false := by
      cases target with
      | int _ => cases hopen
      | _ => rfl
    rw [hselecting, hparentheses]
    exact ⟨hint, by simp⟩
  · right
    have hint : target.isInt = false := by
      cases target with
      | int _ => cases hend
      | _ => rfl
    rw [hselecting, parentheses_primary_eq_zero hend]
    exact ⟨hint, by simp⟩

mutual

/-- A printed tree has no more tokens than its grouping needs. -/
theorem Expr.Plain.length_le_size {expr : Expr} (h : expr.Plain naming) :
    (expr.printed naming).length ≤ (expr.group naming).size := by
  cases h with
  | this | var _ | null | string _ => exact Nat.le_refl 1
  | int value =>
      rw [Expr.group, Expr.printed, signTokens]
      split <;> exact Nat.le_refl _
  | @field target name htarget hname =>
      have hsize := htarget.length_le_size
      have hselecting := @Expr.length_selecting naming target (target.printed naming)
      simp only [Expr.group, Expr.printed, Group.size, List.length_append, List.length_cons,
        List.length_nil]
      omega
  | @staticField owner name howner hname =>
      have hpath := length_pathTokens_le (segments '.' (naming owner.name))
      simp only [Expr.group, Expr.printed, Group.size, List.length_append, List.length_cons,
        List.length_nil]
      omega
  | @call target method args htarget hmethod hargs =>
      have hsize := htarget.length_le_size
      have hargsSize := hargs.length_le_argsSize
      have hselecting := @Expr.length_selecting naming target (target.printed naming)
      simp only [Expr.group, Expr.printed, Group.size, List.length_append, List.length_cons,
        List.length_nil]
      omega
  | @localCall method args hmethod hargs =>
      have hargsSize := hargs.length_le_argsSize
      simp only [Expr.group, Expr.printed, Group.size, List.length_append, List.length_cons,
        List.length_nil]
      omega
  | @staticCall owner method args howner hmethod hargs =>
      have hpath := length_pathTokens_le (segments '.' (naming owner.name))
      have hargsSize := hargs.length_le_argsSize
      simp only [Expr.group, Expr.printed, Group.size, List.length_append, List.length_cons,
        List.length_nil]
      omega
  | @cast type expr htype hexpr =>
      have hsize := hexpr.length_le_size
      simp only [Expr.group, Expr.printed, Group.size, List.length_append, List.length_cons]
      omega
  | @compare op left right hleft hright =>
      have hleftSize := hleft.length_le_size
      have hrightSize := hright.length_le_size
      simp only [Expr.group, Expr.printed, Group.size, List.length_append, List.length_cons]
      omega

theorem Expr.AllPlain.length_le_argsSize {args : List Expr} (h : Expr.AllPlain naming args) :
    (Expr.argsPrinted naming args).length ≤ Group.argsSize (Expr.argGroups naming args) := by
  cases h with
  | nil => exact Nat.le_refl 0
  | @cons expr rest hexpr hrest =>
      have hsize := hexpr.length_le_size
      cases rest with
      | nil => exact hsize
      | cons next rest =>
          have hrestSize := hrest.length_le_argsSize
          simp only [Expr.argGroups, Expr.argsPrinted, Group.argsSize, List.length_append,
            List.length_cons] at hrestSize ⊢
          omega

end

mutual

/-- A printed tree with as many tokens as its grouping needs is readable. -/
theorem Expr.Plain.readable_of_size_le {expr : Expr} (h : expr.Plain naming)
    (hsize : (expr.group naming).size ≤ (expr.printed naming).length) :
    expr.Readable naming := by
  cases h with
  | this | var _ | null | string _ | int _ | staticField _ _ => trivial
  | @field target name htarget hname =>
      have htargetLength := htarget.length_le_size
      have hselecting := @Expr.length_selecting naming target (target.printed naming)
      simp only [Expr.group, Expr.printed, Group.size, List.length_append, List.length_cons,
        List.length_nil] at hsize
      obtain ⟨-, hfew⟩ | ⟨hint, hlength⟩ := hselecting
      · omega
      · exact ⟨hint, htarget.readable_of_size_le (by omega)⟩
  | @call target method args htarget hmethod hargs =>
      have htargetLength := htarget.length_le_size
      have hargsLength := hargs.length_le_argsSize
      have hselecting := @Expr.length_selecting naming target (target.printed naming)
      simp only [Expr.group, Expr.printed, Group.size, List.length_append, List.length_cons,
        List.length_nil] at hsize
      obtain ⟨-, hfew⟩ | ⟨hint, hlength⟩ := hselecting
      · omega
      · exact ⟨hint, htarget.readable_of_size_le (by omega),
          hargs.allReadable_of_argsSize_le (by omega)⟩
  | @localCall method args hmethod hargs =>
      simp only [Expr.group, Expr.printed, Group.size, List.length_append, List.length_cons,
        List.length_nil] at hsize
      exact hargs.allReadable_of_argsSize_le (by omega)
  | @staticCall owner method args howner hmethod hargs =>
      have hpath := length_pathTokens_le (segments '.' (naming owner.name))
      simp only [Expr.group, Expr.printed, Group.size, List.length_append, List.length_cons,
        List.length_nil] at hsize
      exact hargs.allReadable_of_argsSize_le (by omega)
  | @cast type expr htype hexpr =>
      have hlength := hexpr.length_le_size
      simp only [Expr.group, Expr.printed, Group.size, List.length_append,
        List.length_cons] at hsize
      have hrank : (expr.group naming).parentheses (castRank (typeTokens naming type)) = 0 := by
        omega
      obtain ⟨hcomparison, hnegative⟩ := Expr.parentheses_castRank_eq_zero_iff.1 hrank
      exact ⟨hcomparison, hnegative, hexpr.readable_of_size_le (by omega)⟩
  | @compare op left right hleft hright =>
      have hleftLength := hleft.length_le_size
      have hrightLength := hright.length_le_size
      simp only [Expr.group, Expr.printed, Group.size, List.length_append,
        List.length_cons] at hsize
      have hrank : (right.group naming).parentheses .unary = 0 := by omega
      have hcomparison := Expr.parentheses_unary_eq_zero_iff.1 hrank
      exact ⟨hcomparison, hleft.readable_of_size_le (by omega),
        hright.readable_of_size_le (by omega)⟩

theorem Expr.AllPlain.allReadable_of_argsSize_le {args : List Expr} (h : Expr.AllPlain naming args)
    (hsize : Group.argsSize (Expr.argGroups naming args) ≤ (Expr.argsPrinted naming args).length) :
    Expr.AllReadable naming args := by
  cases h with
  | nil => trivial
  | @cons expr rest hexpr hrest =>
      have hlength := hexpr.length_le_size
      cases rest with
      | nil => exact ⟨hexpr.readable_of_size_le hsize, trivial⟩
      | cons next rest =>
          have hrestLength := hrest.length_le_argsSize
          simp only [Expr.argGroups, Expr.argsPrinted, Group.argsSize, List.length_append,
            List.length_cons] at hrestLength hsize
          refine ⟨hexpr.readable_of_size_le (by omega), hrest.allReadable_of_argsSize_le ?_⟩
          simp only [Expr.argGroups]
          omega

end

/-! ### Reading a printed tree -/

theorem Expr.Plain.tokens_toList_text {expr : Expr} (h : expr.Plain naming) :
    tokens (expr.text naming).toList = expr.printed naming := by
  have htokens := h.tokens_text (endsType_nil.endsBefore expr)
  rwa [List.append_nil, tokens_nil, List.append_nil] at htokens

/-- A tree is read as itself exactly if it is readable. -/
theorem Expr.Plain.readsAs_group_iff {expr : Expr} (h : expr.Plain naming) :
    ReadsAs (expr.text naming) (expr.group naming) ↔ expr.Readable naming := by
  rw [ReadsAs, h.tokens_toList_text]
  constructor
  · intro hderives
    exact h.readable_of_size_le ((Nat.le_add_right _ _).trans hderives.size_le)
  · intro hreadable
    exact (h.derives hreadable).weaken (Rank.level_le_comparison _)

/-- A printed tree is read as itself, and as nothing else, exactly if it is readable. So readable
trees with one text have one grouping. -/
theorem Expr.readsAs_iff_readable {expr : Expr} (h : expr.Plain naming) :
    ((∀ group, ReadsAs (expr.text naming) group ↔ group = expr.group naming) ↔
        expr.Readable naming) ∧
      (expr.Readable naming → ∀ other : Expr, other.Plain naming → other.Readable naming →
        other.text naming = expr.text naming → other.group naming = expr.group naming) := by
  constructor
  · constructor
    · intro hreads
      exact h.readsAs_group_iff.1 ((hreads _).2 rfl)
    · intro hreadable group
      have hself := h.readsAs_group_iff.2 hreadable
      constructor
      · exact fun hgroup => Derives.unique hgroup hself
      · rintro rfl
        exact hself
  · intro hreadable other hother hotherReadable htext
    have hself := h.readsAs_group_iff.2 hreadable
    have hread := hother.readsAs_group_iff.2 hotherReadable
    rw [htext] at hread
    exact hread.unique hself

end

/-- A call on a cast, compared with a literal. -/
def castReceiver (item : Expr) : Expr :=
  .compare .equal
    (.call (.cast (.variable "T") item) "get"
      [.compare .notEqual (.variable "other") .null, .int (-3)])
    (.string "none")

theorem plain_castReceiver {item : Expr} (h : item.Plain id) : (castReceiver item).Plain id := by
  have htype : IsNamed id (.variable "T") := ⟨nofun, by decide⟩
  have hargs : Expr.AllPlain id [.compare .notEqual (.variable "other") .null, .int (-3)] :=
    .cons (.compare _ (.var (by decide)) .null) (.cons (.int _) .nil)
  exact .compare _ (.call (.cast htype h) (by decide) hargs) (.string _)

/-- A static field and a field of a variable are written alike. -/
theorem readsAs_iff_readable_castReceiver :
    (castReceiver (.field (.variable "Sample") "item")).Plain id ∧
      (∀ group, ReadsAs "((T) Sample.item).get(other != null, -3) == \"none\"" group ↔
        group = (castReceiver (.field (.variable "Sample") "item")).group id) ∧
      (castReceiver (.staticField { name := "Sample" } "item")).group id =
        (castReceiver (.field (.variable "Sample") "item")).group id := by
  have hfield : (castReceiver (.field (.variable "Sample") "item")).Plain id :=
    plain_castReceiver (.field (.var (by decide)) (by decide))
  have hstatic : (castReceiver (.staticField { name := "Sample" } "item")).Plain id :=
    plain_castReceiver (.staticField (by decide) (by decide))
  obtain ⟨hiff, hsame⟩ := Expr.readsAs_iff_readable hfield
  have hreadable : (castReceiver (.field (.variable "Sample") "item")).Readable id :=
    ⟨rfl, ⟨rfl, ⟨rfl, nofun, rfl, trivial⟩, ⟨rfl, trivial, trivial⟩, trivial, trivial⟩, trivial⟩
  have hstaticReadable : (castReceiver (.staticField { name := "Sample" } "item")).Readable id :=
    ⟨rfl, ⟨rfl, ⟨rfl, nofun, trivial⟩, ⟨rfl, trivial, trivial⟩, trivial, trivial⟩, trivial⟩
  exact ⟨hfield, hiff.2 hreadable, hsame hreadable _ hstatic hstaticReadable rfl⟩

/-- The cast of a comparison. -/
def castOfComparison : Expr :=
  .cast (.variable "T") (.compare .equal (.variable "a") (.variable "b"))

/-- The comparison of a cast. -/
def comparisonOfCast : Expr :=
  .compare .equal (.cast (.variable "T") (.variable "a")) (.variable "b")

/-- The cast of a comparison and the comparison of a cast have one text, which is read as the
comparison. -/
theorem not_readsAs_castOfComparison :
    castOfComparison.Plain id ∧ comparisonOfCast.Plain id ∧
      castOfComparison.text id = "(T) a == b" ∧ comparisonOfCast.text id = "(T) a == b" ∧
      castOfComparison.group id ≠ comparisonOfCast.group id ∧
      ¬ReadsAs "(T) a == b" (castOfComparison.group id) := by
  have htype : IsNamed id (.variable "T") := ⟨nofun, by decide⟩
  have hcast : castOfComparison.Plain id :=
    .cast htype (.compare _ (.var (by decide)) (.var (by decide)))
  refine ⟨hcast, .compare _ (.cast htype (.var (by decide))) (.var (by decide)), rfl, rfl, nofun,
    fun hreads => ?_⟩
  obtain ⟨hcomparison, -⟩ := hcast.readsAs_group_iff.1 hreads
  exact Bool.noConfusion hcomparison

end FluentHttp.Java
