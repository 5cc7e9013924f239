import FluentHttp.Json.Outline
import FluentHttp.Proofs.Json.Lexing

/-!
# FluentHttp.Proofs.Json.Reading

The text of a value is read as that value, to its end (`Reading.ofText_text`).

The reader carries its unfinished containers along. So what is proved of a value is what it does to
a reader that waits for one, whatever surrounds it: the reader goes on as after a whole value
(`run_writtenTokens`).
-/

namespace FluentHttp.Json

/-! ### Values as outlines -/

mutual

/-- What the text of a value says. -/
def outline : Json → Outline
  | null => .null
  | bool value => .bool value
  | int value => .number (toString value).toList
  | string value => .string (some value)
  | array items => .array (outlines items)
  | object fields => .object (entries fields)

/-- What the texts of values say. -/
def outlines : List Json → List Outline
  | [] => []
  | item :: rest => item.outline :: outlines rest

/-- What the text of fields says. -/
def entries : List (String × Json) → List Entry
  | [] => []
  | (key, value) :: rest => (some key, value.outline) :: entries rest

end

theorem outlines_eq_map (items : List Json) : outlines items = items.map outline := by
  induction items with
  | nil => rfl
  | cons item rest ih => rw [outlines, ih, List.map_cons]

/-! ### The reader on printed values -/

/-- The first item of an array is read like any other, as no value starts with a closing bracket. -/
theorem run_firstItem (json : Json) (outer : Context) (ts : List Token) :
    (State.firstItem outer).run (json.writtenTokens ++ ts) =
      (State.value (.item [] outer)).run (json.writtenTokens ++ ts) := by
  cases json <;> rfl

mutual

/-- A reader that waits for a value goes on behind a printed one as after a whole value. -/
theorem run_writtenTokens (json : Json) (context : Context) (ts : List Token) :
    (State.value context).run (json.writtenTokens ++ ts) =
      (context.complete json.outline).run ts := by
  match json with
  | null => rfl
  | bool _ => rfl
  | int _ => rfl
  | string _ => rfl
  | array [] => rfl
  | array (item :: rest) =>
      calc (State.value context).run ((array (item :: rest)).writtenTokens ++ ts)
          = (State.firstItem context).run (writtenItems (item :: rest) ++ .closeArray :: ts) := by
            rw [writtenTokens, List.cons_append, List.append_assoc]
            rfl
        _ = (State.value (.item [] context)).run
              (writtenItems (item :: rest) ++ .closeArray :: ts) := by
            cases rest with
            | nil => exact run_firstItem item context _
            | cons next later =>
                rw [writtenItems, List.append_assoc]
                exact run_firstItem item context _
        _ = (context.complete (array (item :: rest)).outline).run ts :=
            run_writtenItems item rest [] context ts
  | object [] => rfl
  | object ((key, value) :: rest) =>
      calc (State.value context).run ((object ((key, value) :: rest)).writtenTokens ++ ts)
          = (State.firstKey context).run
              (writtenFields ((key, value) :: rest) ++ .closeObject :: ts) := by
            rw [writtenTokens, List.cons_append, List.append_assoc]
            rfl
        _ = (State.key [] context).run
              (writtenFields ((key, value) :: rest) ++ .closeObject :: ts) := by
            cases rest <;> rfl
        _ = (context.complete (object ((key, value) :: rest)).outline).run ts :=
            run_writtenFields key value rest [] context ts
termination_by sizeOf json

theorem run_writtenItems (item : Json) (rest : List Json) (before : List Outline)
    (outer : Context) (ts : List Token) :
    (State.value (.item before outer)).run (writtenItems (item :: rest) ++ .closeArray :: ts) =
      (outer.complete (.array (before.reverse ++ outlines (item :: rest)))).run ts := by
  match rest with
  | [] =>
      rw [writtenItems, run_writtenTokens item, outlines, outlines, ← List.reverse_cons]
      rfl
  | next :: later =>
      have hrest := run_writtenItems next later (item.outline :: before) outer ts
      rw [List.reverse_cons, List.append_assoc] at hrest
      rw [writtenItems, List.append_assoc, run_writtenTokens item, outlines]
      exact hrest
termination_by sizeOf (item :: rest)

theorem run_writtenFields (key : String) (value : Json) (rest : List (String × Json))
    (before : List Entry) (outer : Context) (ts : List Token) :
    (State.key before outer).run (writtenFields ((key, value) :: rest) ++ .closeObject :: ts) =
      (outer.complete (.object (before.reverse ++ entries ((key, value) :: rest)))).run ts := by
  match rest with
  | [] =>
      have hvalue := run_writtenTokens value (.entry before (some key) outer) (.closeObject :: ts)
      rw [entries, entries, ← List.reverse_cons]
      exact hvalue
  | (next, nextValue) :: later =>
      have hvalue := run_writtenTokens value (.entry before (some key) outer)
        (.comma :: (writtenFields ((next, nextValue) :: later) ++ .closeObject :: ts))
      have hrest := run_writtenFields next nextValue later ((some key, value.outline) :: before)
        outer ts
      rw [List.reverse_cons, List.append_assoc] at hrest
      rw [writtenFields, entries, List.cons_append, List.cons_append, List.append_assoc]
      exact hvalue.trans hrest
termination_by sizeOf ((key, value) :: rest)

end

/-- The text of a value is read as that value, and there is nothing behind it. -/
theorem Reading.ofText_text (json : Json) : Reading.ofText json.text = ⟨json.outline, true⟩ := by
  have htokens : tokens json.text.toList = json.writtenTokens ++ [] := by
    have h := @tokens_text json [] (by rintro c ⟨⟩)
    rwa [List.append_nil, tokens] at h
  rw [Reading.ofText, htokens, run_writtenTokens]
  rfl

end FluentHttp.Json
