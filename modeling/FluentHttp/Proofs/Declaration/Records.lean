import FluentHttp.Declaration.Reader
import FluentHttp.Declaration.Writer
import FluentHttp.Proofs.Json.Reading

/-!
# FluentHttp.Proofs.Declaration.Records

Printed records and what their readers make of them, whatever the record.

A record is printed in the order of the keys of its reader, and fields that say no more than the
blank record are left out. So reading it back is a walk along the keys (`Fills`), in which a field
that may be left out is one step whether it is there or not (`Fills.listField`,
`Fills.optionField`). A reader can then be told from the record before and after each step
(`record_eq_ok`).
-/

namespace FluentHttp

open Json (Outline Entry)

/-- If two steps succeed, then so does the first, and the second with its result. -/
theorem exists_of_bind {ε α β : Type} {result : Except ε α} {f : α → Except ε β} {y : β}
    (h : (result >>= f) = .ok y) : ∃ x, result = .ok x ∧ f x = .ok y := by
  cases result with
  | error _ => cases h
  | ok x => exact ⟨x, rfl, h⟩

namespace Reader

variable {α β : Type}

/-! ### Values -/

theorem list_ofList {read : Outline → Except DocumentError α} {write : α → Json} {xs : List α}
    (h : ∀ x ∈ xs, read (write x).outline = .ok x) :
    list read (Json.ofList write xs).outline = .ok xs := by
  rw [Json.ofList, Json.outline, Json.outlines_eq_map, List.map_map, list]
  induction xs with
  | nil => rfl
  | cons x rest ih =>
      obtain ⟨hfirst, hrest⟩ := List.forall_mem_cons.1 h
      simp only [List.map_cons, List.mapM_cons, Function.comp_apply, hfirst, ih hrest]
      rfl

/-- An optional value as its reader finds it: null where there is none. -/
def optionOutline (write : α → Json) (x : Option α) : Outline :=
  x.elim .null fun value => (write value).outline

theorem option_optionOutline {read : Outline → Except DocumentError α} {write : α → Json}
    {x : Option α} (hnull : ∀ value, (write value).outline ≠ .null)
    (h : ∀ value ∈ x, read (write value).outline = .ok value) :
    option read (optionOutline write x) = .ok x := by
  cases x with
  | none => rfl
  | some value =>
      have hread := h value rfl
      have hne := hnull value
      simp only [optionOutline, Option.elim_some]
      rw [option.eq_def]
      split
      next heq => exact absurd heq hne
      next => rw [hread]; rfl

/-- What a reader of a field does with a value that can be read. -/
theorem return_of_eq_ok {result : Except DocumentError α} {x : α} (h : result = .ok x)
    (f : α → β) : (do return f (← result)) = (.ok (f x) : Except DocumentError β) := by
  rw [h]
  rfl

theorem map_of_eq_ok {result : Except DocumentError α} {x : α} (h : result = .ok x) (f : α → β) :
    f <$> result = .ok (f x) := by
  rw [h, Except.map_ok]

/-! ### Records -/

section Fills

variable {put : α → String → Outline → Except DocumentError α} {record next full : α}
  {key : String} {keys : List String} {fields : List (String × Json)}

/-- `Fills put record keys fields full`: the fields come in the order of the keys, some of them left
out, and storing one after the other turns `record` into `full`. -/
inductive Fills (put : α → String → Outline → Except DocumentError α) :
    α → List String → List (String × Json) → α → Prop
  | nil {record : α} : Fills put record [] [] record
  | field {record next full : α} {key : String} {keys : List String} {value : Json}
      {fields : List (String × Json)} (hput : put record key value.outline = .ok next)
      (h : Fills put next keys fields full) :
      Fills put record (key :: keys) ((key, value) :: fields) full
  | skip {record full : α} {key : String} {keys : List String} {fields : List (String × Json)}
      (h : Fills put record keys fields full) : Fills put record (key :: keys) fields full

/-- A list that is left out where it is empty is stored either way, if an empty one changes nothing.
-/
theorem Fills.listField {write : β → Json} {xs : List β}
    (hblank : put record key (.array []) = .ok record)
    (hput : put record key (Json.ofList write xs).outline = .ok next)
    (h : Fills put next keys fields full) :
    Fills put record (key :: keys) (Json.listField key write xs ++ fields) full := by
  cases xs with
  | nil =>
      obtain rfl : record = next := Except.ok.inj (hblank.symm.trans hput)
      exact .skip h
  | cons x rest => exact .field hput h

/-- The same goes for an optional value, if null changes nothing. -/
theorem Fills.optionField {write : β → Json} {x : Option β}
    (hblank : put record key .null = .ok record)
    (hput : put record key (optionOutline write x) = .ok next)
    (h : Fills put next keys fields full) :
    Fills put record (key :: keys) (Json.optionField key write x ++ fields) full := by
  cases x with
  | none =>
      obtain rfl : record = next := Except.ok.inj (hblank.symm.trans hput)
      exact .skip h
  | some value => exact .field hput h

/-- The reader of a record stores the fields, and has then seen their keys. -/
theorem Fills.readEntries_eq_ok (h : Fills put record keys fields full) {known seen : List String}
    (hknown : keys ⊆ known) (hnodup : keys.Nodup) (hseen : ∀ key ∈ keys, key ∉ seen) :
    readEntries known put record seen (Json.entries fields) =
      .ok (full, (fields.map Prod.fst).reverse ++ seen) := by
  induction h generalizing seen with
  | nil => rfl
  | @field record next full key keys value fields hput _ ih =>
      obtain ⟨hkey, hkeys⟩ := List.cons_subset.1 hknown
      obtain ⟨hfresh, hrest⟩ := List.nodup_cons.1 hnodup
      obtain ⟨hunseen, hlater⟩ := List.forall_mem_cons.1 hseen
      -- no later key is this one, so it stays unseen
      have hseen' : ∀ other ∈ keys, other ∉ key :: seen := by
        intro other hother hmem
        rcases List.mem_cons.1 hmem with rfl | hmem
        · exact hfresh hother
        · exact hlater other hother hmem
      rw [Json.entries, readEntries, if_pos hkey, if_neg hunseen, hput]
      simp only [List.map_cons, List.reverse_cons, List.append_assoc, List.singleton_append]
      exact ih hkeys hrest hseen'
  | skip _ ih =>
      exact ih (List.cons_subset.1 hknown).2 (List.nodup_cons.1 hnodup).2
        (List.forall_mem_cons.1 hseen).2

/-- A printed record is read as what its fields make of the blank one, if those without a default
are among them. -/
theorem record_eq_ok {required : List String} (h : Fills put record keys fields full)
    (hnodup : keys.Nodup) (hrequired : ∀ key ∈ required, key ∈ fields.map Prod.fst) :
    Reader.record keys required put record (Json.object fields).outline = .ok full := by
  have hentries := h.readEntries_eq_ok (List.Subset.refl keys) hnodup
    (fun _ _ => List.not_mem_nil)
  have hmissing : required.find? (· ∉ (fields.map Prod.fst).reverse ++ []) = none := by
    simpa using hrequired
  simp only [Reader.record, Json.outline, Reader.entries, bind, Except.bind, hentries, hmissing]

end Fills

/-! ### Records told apart by their kind -/

/-- A field besides the kind that can be stored until the kind is known. -/
def IsStorableField (depth : Nat) (field : String × Json) : Prop :=
  field.1 ≠ "kind" ∧ field.2.outline.isStorable depth = true

section Tagged

variable {depth : Nat} {fields : List (String × Json)}

theorem IsStorableField.intro {key : String} {value : Json} (hkey : key ≠ "kind")
    (hvalue : value.outline.isStorable depth = true) : IsStorableField depth (key, value) :=
  ⟨hkey, hvalue⟩

theorem findKind_of_storable {kinds : List (String × α)} (kind : α)
    (h : ∀ field ∈ fields, IsStorableField depth field) :
    findKind depth kinds (some kind) (Json.entries fields) = .ok (some kind) := by
  induction fields with
  | nil => rfl
  | cons field rest ih =>
      obtain ⟨⟨hkey, hvalue⟩, hrest⟩ := List.forall_mem_cons.1 h
      rw [Json.entries, findKind, if_neg hkey, if_pos hvalue]
      exact ih hrest

theorem filter_entries (h : ∀ field ∈ fields, IsStorableField depth field) :
    (Json.entries fields).filter (·.1 != some "kind") = Json.entries fields := by
  induction fields with
  | nil => rfl
  | cons field rest ih =>
      obtain ⟨⟨hkey, -⟩, hrest⟩ := List.forall_mem_cons.1 h
      rw [Json.entries, List.filter_cons_of_pos (by simpa using hkey), ih hrest]

/-- A printed record with its kind in front is left to the reader of that kind. -/
theorem tagged_eq {kinds : List (String × (Outline → Except DocumentError α))} {word : String}
    {read : Outline → Except DocumentError α} (hword : kinds.lookup word = some read)
    (h : ∀ field ∈ fields, IsStorableField depth field) :
    tagged depth kinds (Json.object (("kind", .string word) :: fields)).outline =
      read (Json.object fields).outline := by
  have hkind : findKind depth kinds none (Json.entries (("kind", .string word) :: fields)) =
      .ok (some read) := by
    rw [Json.entries, findKind, if_pos rfl, if_neg (by simp)]
    simp only [Json.outline, text, bind, Except.bind, hword]
    exact findKind_of_storable read h
  have hfilter : (Json.entries (("kind", .string word) :: fields)).filter (·.1 != some "kind") =
      Json.entries fields := by
    rw [Json.entries, List.filter_cons_of_neg (by simp), filter_entries h]
  rw [Json.outline, tagged]
  change (findKind depth kinds none (Json.entries (("kind", .string word) :: fields)) >>= _) = _
  rw [hkind, hfilter]
  rfl

theorem isStorable_ofList {write : β → Json} {xs : List β} (hdepth : depth ≠ 0)
    (h : ∀ x ∈ xs, (write x).outline.isStorable (depth - 1) = true) :
    (Json.ofList write xs).outline.isStorable depth = true := by
  rw [Json.ofList, Json.outline, Json.outlines_eq_map, List.map_map, Outline.isStorable,
    Bool.and_eq_true]
  refine ⟨by simpa using hdepth, ?_⟩
  induction xs with
  | nil => rfl
  | cons x rest ih =>
      obtain ⟨hfirst, hrest⟩ := List.forall_mem_cons.1 h
      rw [List.map_cons, Outline.areStorable, Bool.and_eq_true]
      exact ⟨hfirst, ih hrest⟩

theorem isStorable_object (hdepth : depth ≠ 0)
    (h : ∀ field ∈ fields, field.2.outline.isStorable (depth - 1) = true) :
    (Json.object fields).outline.isStorable depth = true := by
  rw [Json.outline, Outline.isStorable, Bool.and_eq_true]
  refine ⟨by simpa using hdepth, ?_⟩
  induction fields with
  | nil => rfl
  | cons field rest ih =>
      obtain ⟨hfirst, hrest⟩ := List.forall_mem_cons.1 h
      rw [Json.entries, Outline.entriesAreStorable, hfirst, ih hrest]
      rfl

/-- A property of a field that may be left out is one of its value. -/
theorem forall_mem_listField {write : β → Json} {xs : List β} {key : String}
    {p : String × Json → Prop} (h : p (key, Json.ofList write xs)) :
    ∀ field ∈ Json.listField key write xs, p field := by
  unfold Json.listField
  split
  · exact List.forall_mem_nil _
  · exact List.forall_mem_singleton.2 h

end Tagged

/-! ### What readers accept -/

/-- All that a reader accepts has a property. -/
def Yields (read : Outline → Except DocumentError α) (p : α → Prop) : Prop :=
  ∀ outline value, read outline = .ok value → p value

namespace Yields

variable {p : α → Prop} {q : β → Prop}

theorem map {read : Outline → Except DocumentError α} {f : α → β} (h : Yields read p)
    (hf : ∀ x, p x → q (f x)) : Yields (fun outline => f <$> read outline) q := by
  intro outline y hread
  change f <$> read outline = .ok y at hread
  cases hresult : read outline with
  | error _ => simp [hresult] at hread
  | ok x =>
      rw [hresult, Except.map_ok] at hread
      exact Except.ok.inj hread ▸ hf x (h outline x hresult)

theorem list {read : Outline → Except DocumentError α} (h : Yields read p) :
    Yields (Reader.list read) fun xs => ∀ x ∈ xs, p x := by
  intro outline xs hread
  cases outline with
  | array items =>
      change items.mapM read = .ok xs at hread
      induction items generalizing xs with
      | nil =>
          cases hread
          exact List.forall_mem_nil _
      | cons item rest ih =>
          rw [List.mapM_cons] at hread
          obtain ⟨x, hx, hread⟩ := exists_of_bind hread
          obtain ⟨later, hlater, hread⟩ := exists_of_bind hread
          cases hread
          exact List.forall_mem_cons.2 ⟨h item x hx, ih later hlater⟩
  | _ => cases hread

theorem option {read : Outline → Except DocumentError α} (h : Yields read p) :
    Yields (Reader.option read) fun x => ∀ value ∈ x, p value := by
  have hsome : Yields (fun outline => some <$> read outline) fun x => ∀ value ∈ x, p value :=
    h.map fun value hvalue => by simpa using hvalue
  intro outline x hread
  rw [Reader.option.eq_def] at hread
  split at hread
  next =>
    cases hread
    simp
  next => exact hsome outline x hread

section Record

variable {keys required : List String} {put : α → String → Outline → Except DocumentError α}

theorem readEntries (hput : ∀ record key, p record → Yields (put record key) p) {record full : α}
    {seen all : List String} {es : List Entry} (hrecord : p record)
    (h : Reader.readEntries keys put record seen es = .ok (full, all)) : p full := by
  induction es generalizing record seen with
  | nil =>
      cases h
      exact hrecord
  | cons entry rest ih =>
      obtain ⟨_ | key, value⟩ := entry
      · cases h
      · rw [Reader.readEntries] at h
        split at h
        · split at h
          · cases h
          · obtain ⟨next, hnext, h⟩ := exists_of_bind h
            exact ih (hput record key hrecord value next hnext) h
        · obtain ⟨-, -, h⟩ := exists_of_bind h
          exact ih hrecord h

/-- A property of the blank record that storing a field keeps is one of the whole record. -/
theorem record {blank : α} (hblank : p blank)
    (hput : ∀ record key, p record → Yields (put record key) p) :
    Yields (Reader.record keys required put blank) p := by
  intro outline full hread
  obtain ⟨es, -, hread⟩ := exists_of_bind hread
  obtain ⟨⟨stored, seen⟩, hentries, hread⟩ := exists_of_bind hread
  have hstored : p stored := readEntries hput hblank hentries
  dsimp only at hread
  split at hread
  · cases hread
  · cases hread
    exact hstored

end Record

theorem findKind {depth : Nat} {kinds : List (String × α)} (h : ∀ kind ∈ kinds, p kind.2)
    {given? found? : Option α} (hgiven : ∀ kind ∈ given?, p kind) {es : List Entry}
    (hfind : Reader.findKind depth kinds given? es = .ok found?) : ∀ kind ∈ found?, p kind := by
  induction es generalizing given? with
  | nil =>
      cases hfind
      exact hgiven
  | cons entry rest ih =>
      obtain ⟨_ | key, value⟩ := entry
      · cases hfind
      · rw [Reader.findKind] at hfind
        split at hfind
        · split at hfind
          · cases hfind
          · obtain ⟨word, -, hfind⟩ := exists_of_bind hfind
            split at hfind
            next kind hlookup =>
              obtain ⟨before, after, hkinds, -⟩ := List.lookup_eq_some_iff.1 hlookup
              have hkind : p kind := h (word, kind) (by simp [hkinds])
              exact ih (by simpa using hkind) hfind
            next => cases hfind
        · split at hfind
          · exact ih hgiven hfind
          · cases hfind

/-- A property that every kind of record has is one of all that are told apart by their kind. -/
theorem tagged {depth : Nat} {kinds : List (String × (Outline → Except DocumentError α))}
    (h : ∀ kind ∈ kinds, Yields kind.2 p) : Yields (Reader.tagged depth kinds) p := by
  intro outline value hread
  unfold Reader.tagged at hread
  dsimp only at hread
  split at hread
  case h_3 | h_4 => cases hread
  all_goals
    obtain ⟨⟨all, rest⟩, -, hread⟩ := exists_of_bind hread
    obtain ⟨found?, hfind, hread⟩ := exists_of_bind hread
    have hfound : ∀ read ∈ found?, Yields read p := findKind h (by simp) hfind
    split at hread
    next read => exact hfound read rfl rest value hread
    next => cases hread

end Yields

end Reader

end FluentHttp
