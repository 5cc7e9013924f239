import FluentHttp.Files.SourceTree
import FluentHttp.Files.Store
import FluentHttp.Proofs.Inheritance
import FluentHttp.Proofs.Java.Imports

/-!
# FluentHttp.Proofs.Files.SourceTree

Where the sources of generated classes go.

The package is cut at its dots, and each segment is pushed on the path of the root. What a segment
may hold is not looked at as long as it is not empty, so a segment with a slash in front starts the
path anew, outside of the root (`sourcePath_leadsDown_iff`). All other segments lead down, as no
segment has a dot in it.
-/

namespace FluentHttp

open Api

namespace Files

/-! ### Paths that lead down -/

namespace Path

/-- The pieces of a path that lead somewhere. -/
def steps (path : Path) : List String :=
  path.pieces.filter (!Store.isStill ·)

/-- A path that leads from a root down to something below it by names alone. -/
structure LeadsDown (root : Path) (names : List String) (path : Path) : Prop where
  absolute_eq : path.absolute = root.absolute
  steps_eq : path.steps = root.steps ++ names
  /-- No name is a step up. -/
  not_up : ".." ∉ names
  ne_root : names ≠ []

theorem absolute_ofText_iff {text : String} :
    (ofText text).absolute = true ↔ text.toList.head? = some '/' := by
  unfold ofText
  split
  · next htext => simp [htext]
  · next hslash =>
      refine iff_of_false Bool.false_ne_true fun hhead => ?_
      obtain ⟨rest, hrest⟩ := List.head?_eq_some_iff.1 hhead
      exact hslash rest hrest

/-- The path of a text without a slash in front has its segments as pieces. -/
theorem ofText_of_head? {text : String} (h : text.toList.head? ≠ some '/') :
    ofText text = { pieces := Text.segments '/' text } := by
  unfold ofText
  split
  · next htext => simp [htext] at h
  · rfl

theorem absolute_push (path next : Path) :
    (path.push next).absolute = (next.absolute || path.absolute) := by
  unfold push
  split <;> simp_all

/-- A path that does not start anew goes on behind the steps made so far. -/
theorem steps_push (path : Path) {next : Path} (h : next.absolute = false) :
    (path.push next).steps = path.steps ++ next.steps := by
  unfold push steps
  rw [if_neg (by simp [h]), List.filter_append]
  split
  · next hlast =>
      obtain ⟨before, hbefore⟩ := List.getLast?_eq_some_iff.1 hlast
      have hstill : [""].filter (!Store.isStill ·) = [] := rfl
      rw [hbefore, List.dropLast_concat, List.filter_append, hstill, List.append_nil]
  · rfl

/-- The path that starts at a root and goes on along each of the texts. -/
def along (root : Path) (texts : List String) : Path :=
  texts.foldl (fun path text => path.push (ofText text)) root

theorem absolute_along_iff {root : Path} {texts : List String} :
    (root.along texts).absolute = true ↔
      root.absolute = true ∨ ∃ text ∈ texts, text.toList.head? = some '/' := by
  induction texts generalizing root with
  | nil => simp [along]
  | cons text rest ih =>
      have hstep : (root.push (ofText text)).along rest = root.along (text :: rest) := rfl
      rw [← hstep, ih, absolute_push, Bool.or_eq_true, absolute_ofText_iff,
        List.exists_mem_cons_iff]
      tauto

theorem steps_along {root : Path} {texts : List String}
    (h : ∀ text ∈ texts, text.toList.head? ≠ some '/') :
    (root.along texts).steps = root.steps ++ texts.flatMap fun text => (ofText text).steps := by
  induction texts generalizing root with
  | nil => exact (List.append_nil _).symm
  | cons text rest ih =>
      obtain ⟨htext, hrest⟩ := List.forall_mem_cons.1 h
      have hrelative : (ofText text).absolute = false := by
        rw [ofText_of_head? htext]
      have hstep : (root.push (ofText text)).along rest = root.along (text :: rest) := rfl
      rw [← hstep, ih hrest, steps_push root hrelative, List.flatMap_cons, List.append_assoc]

theorem mem_segments_of_mem_steps {text step : String} (h : text.toList.head? ≠ some '/')
    (hstep : step ∈ (ofText text).steps) : step ∈ Text.segments '/' text := by
  rw [steps, ofText_of_head? h] at hstep
  exact List.mem_of_mem_filter hstep

theorem steps_ofText_of_not_mem {text : String} (h : '/' ∉ text.toList)
    (hstill : Store.isStill text = false) : (ofText text).steps = [text] := by
  have hhead : text.toList.head? ≠ some '/' := fun hhead => h (List.mem_of_mem_head? hhead)
  rw [steps, ofText_of_head? hhead, Text.segments_of_not_mem h,
    List.filter_cons_of_pos (by rw [hstill]; rfl), List.filter_nil]

end Path

/-! ### The path of a source -/

/-- The texts that lead to the source of a class: the segments of its package, and a file named for
the class. -/
def sourceTexts (decl : Java.ClassDecl) : List String :=
  Text.segments '.' decl.package ++ [decl.name ++ ".java"]

/-- A class that a source can be written for: its package has no empty segment, and its name is that
of the entry class with something without a dot behind it. -/
structure Placed (decl : Java.ClassDecl) (simple : String) : Prop where
  isPackageName : Config.isPackageName decl.package = true
  name_eq : decl.name = entryName ++ simple
  not_mem_dot : '.' ∉ simple.toList

namespace Placed

variable {decl : Java.ClassDecl} {simple : String}

theorem sourcePath_eq_along (h : Placed decl simple) (root : Path) :
    sourcePath root decl = root.along (sourceTexts decl) := by
  have hsegments : (Text.segments '.' decl.package).filter (!·.isEmpty) =
      Text.segments '.' decl.package :=
    List.filter_eq_self.2 (List.all_eq_true.1 h.isPackageName)
  rw [sourcePath, hsegments, Path.along, sourceTexts, List.foldl_append]
  rfl

/-- A segment of the package is neither empty nor made of dots. -/
theorem of_mem_segments (h : Placed decl simple) {segment : String}
    (hsegment : segment ∈ Text.segments '.' decl.package) :
    '.' ∉ segment.toList ∧ Store.isStill segment = false := by
  have hdot := (Text.count_of_mem_segments hsegment).1
  have hnonempty := List.all_eq_true.1 h.isPackageName segment hsegment
  refine ⟨hdot, ?_⟩
  have hne : segment ≠ "" := by
    rintro rfl
    exact absurd hnonempty (by decide)
  have hneDot : segment ≠ "." := by
    rintro rfl
    exact absurd hdot (by decide)
  simp [Store.isStill, hne, hneDot]

theorem toList_file (h : Placed decl simple) :
    (decl.name ++ ".java").toList = 'R' :: ("xHttp".toList ++ simple.toList ++ ".java".toList) := by
  rw [h.name_eq, entryName, String.toList_append, String.toList_append]
  rfl

theorem head?_file (h : Placed decl simple) :
    (decl.name ++ ".java").toList.head? ≠ some '/' := by
  rw [h.toList_file]
  exact fun heq => absurd (Option.some.inj heq) (by decide)

/-- The file of a class has a step of its own, which is no directory. -/
theorem steps_file_ne_nil (h : Placed decl simple) :
    (Path.ofText (decl.name ++ ".java")).steps ≠ [] := by
  have hslash : 'R' ≠ '/' := by decide
  obtain ⟨first, others, -, hcons⟩ :=
    Text.segmentsOf_cons_of_ne hslash ("xHttp".toList ++ simple.toList ++ ".java".toList)
  have hfirst : Store.isStill (String.ofList ('R' :: first)) = false := by
    simp [Store.isStill, String.ext_iff]
  rw [Path.steps, Path.ofText_of_head? h.head?_file, Text.segments, h.toList_file, hcons,
    List.map_cons, List.filter_cons_of_pos (by rw [hfirst]; rfl)]
  exact List.cons_ne_nil _ _

/-- No text on the way has two dots. -/
theorem count_dot_le (h : Placed decl simple) {text : String} (htext : text ∈ sourceTexts decl) :
    text.toList.count '.' ≤ 1 := by
  rcases List.mem_append.1 htext with hsegment | hfile
  · rw [List.count_eq_zero.2 (h.of_mem_segments hsegment).1]
    exact Nat.zero_le 1
  · obtain rfl := List.mem_singleton.1 hfile
    rw [h.toList_file, List.count_cons_of_ne (by decide), List.count_append, List.count_append,
      List.count_eq_zero.2 h.not_mem_dot]
    decide

theorem head?_of_mem_sourceTexts (h : Placed decl simple)
    (hslash : ∀ segment ∈ Text.segments '.' decl.package, segment.toList.head? ≠ some '/') :
    ∀ text ∈ sourceTexts decl, text.toList.head? ≠ some '/' :=
  List.forall_mem_append.2 ⟨hslash, List.forall_mem_singleton.2 h.head?_file⟩

/-- If no segment starts with a slash, then the source goes below every root. -/
theorem leadsDown_steps (h : Placed decl simple)
    (hslash : ∀ segment ∈ Text.segments '.' decl.package, segment.toList.head? ≠ some '/')
    (root : Path) :
    Path.LeadsDown root ((sourceTexts decl).flatMap fun text => (Path.ofText text).steps)
      (sourcePath root decl) := by
  have hrelative := h.head?_of_mem_sourceTexts hslash
  rw [h.sourcePath_eq_along]
  refine ⟨?_, Path.steps_along hrelative, ?_, ?_⟩
  · rw [Bool.eq_iff_iff, Path.absolute_along_iff, or_iff_left]
    exact fun ⟨text, htext, hhead⟩ => hrelative text htext hhead
  · intro hup
    obtain ⟨text, htext, hstep⟩ := List.mem_flatMap.1 hup
    have hpiece := Path.mem_segments_of_mem_steps (hrelative text htext) hstep
    have hcount : 2 ≤ text.toList.count '.' := (Text.count_of_mem_segments hpiece).2 '.'
    exact absurd (h.count_dot_le htext) (Nat.not_le.2 hcount)
  · intro hnil
    have hfile : decl.name ++ ".java" ∈ sourceTexts decl :=
      List.mem_append_right _ List.mem_cons_self
    exact h.steps_file_ne_nil (List.flatMap_eq_nil_iff.1 hnil _ hfile)

/-- The source goes below every root exactly if no segment of the package starts with a slash. -/
theorem exists_leadsDown_iff (h : Placed decl simple) :
    (∀ root, ∃ names, Path.LeadsDown root names (sourcePath root decl)) ↔
      ∀ segment ∈ Text.segments '.' decl.package, segment.toList.head? ≠ some '/' := by
  refine ⟨fun hdown segment hsegment hhead => ?_,
    fun hslash root => ⟨_, h.leadsDown_steps hslash root⟩⟩
  obtain ⟨names, hnames⟩ := hdown {}
  have habsolute : (sourcePath {} decl).absolute = true := by
    rw [h.sourcePath_eq_along, Path.absolute_along_iff]
    exact .inr ⟨segment, List.mem_append_left _ hsegment, hhead⟩
  rw [hnames.absolute_eq] at habsolute
  exact Bool.false_ne_true habsolute

/-- The way below every root is told by the segments of the package and the name of the class
exactly if these have no slash. -/
theorem leadsDown_sourceTexts_iff (h : Placed decl simple) :
    (∀ root, Path.LeadsDown root (sourceTexts decl) (sourcePath root decl)) ↔
      (∀ segment ∈ Text.segments '.' decl.package, '/' ∉ segment.toList) ∧
        '/' ∉ simple.toList := by
  have hfile : '/' ∉ (decl.name ++ ".java").toList ↔ '/' ∉ simple.toList := by
    simp [h.toList_file]
  have htexts : (∀ text ∈ sourceTexts decl, '/' ∉ text.toList) ↔
      (∀ segment ∈ Text.segments '.' decl.package, '/' ∉ segment.toList) ∧ '/' ∉ simple.toList := by
    rw [sourceTexts, List.forall_mem_append, List.forall_mem_singleton, hfile]
  rw [← htexts]
  constructor
  · intro hdown text htext
    have hslash := h.exists_leadsDown_iff.1 fun root => ⟨_, hdown root⟩
    -- what the texts lead along is the texts, and no step has a slash
    have hsteps : sourceTexts decl =
        (sourceTexts decl).flatMap fun text => (Path.ofText text).steps :=
      List.append_cancel_left
        ((hdown {}).steps_eq.symm.trans (h.leadsDown_steps hslash {}).steps_eq)
    have hmem : text ∈ (sourceTexts decl).flatMap fun text => (Path.ofText text).steps :=
      hsteps ▸ htext
    obtain ⟨other, hother, hstep⟩ := List.mem_flatMap.1 hmem
    have hpiece :=
      Path.mem_segments_of_mem_steps (h.head?_of_mem_sourceTexts hslash other hother) hstep
    exact (Text.count_of_mem_segments hpiece).1
  · intro hslash root
    have hsteps : ∀ text ∈ sourceTexts decl, (Path.ofText text).steps = [text] := by
      intro text htext
      refine Path.steps_ofText_of_not_mem (hslash text htext) ?_
      rcases List.mem_append.1 htext with hsegment | hfile
      · exact (h.of_mem_segments hsegment).2
      · obtain rfl := List.mem_singleton.1 hfile
        simp [Store.isStill, String.ext_iff, h.toList_file]
    have hdown := h.leadsDown_steps
      (fun segment hsegment hhead => hslash segment (List.mem_append_left _ hsegment)
        (List.mem_of_mem_head? hhead)) root
    rwa [List.flatMap_congr hsteps, List.flatMap_singleton'] at hdown

end Placed

end Files

/-! ### The sources of a round -/

/-- The package of a configuration that options make has no empty segment. -/
theorem Config.isPackageName_of_ofOptions {options : Options} {config : Config}
    (h : ofOptions options = .ok config) : isPackageName config.package = true := by
  unfold ofOptions withPackage at h
  cases hpackage : options.lookup packageKey with
  | none =>
      have hkept : config.package = ({} : Config).package := by
        rw [hpackage] at h
        split at h
        · split at h
          · exact Except.ok.inj h ▸ rfl
          · cases h
        · exact Except.ok.inj h ▸ rfl
      rw [hkept]
      decide
  | some name =>
      rw [hpackage] at h
      dsimp only at h
      by_cases hname : isPackageName name = true
      · have hkept : config.package = name := by
          rw [if_pos hname] at h
          split at h
          · split at h
            · exact Except.ok.inj h ▸ rfl
            · cases h
          · exact Except.ok.inj h ▸ rfl
        rwa [hkept]
      · rw [if_neg hname] at h
        cases h

namespace Api

/-- What the names of the classes of a registry go on with behind the name of the entry class. -/
def classSuffixes (registry : Registry) : List String :=
  simpleNames registry.params ++ ["", "Extensions"]

variable {config : Config} {registry : Registry}

theorem not_mem_dot_of_mem_classSuffixes {simple : String} (h : simple ∈ classSuffixes registry) :
    '.' ∉ simple.toList := by
  rcases List.mem_append.1 h with hbuilder | hfixed
  · obtain ⟨entry, -, rfl⟩ := List.mem_map.1 hbuilder
    have hsimple : (FluentHttp.simpleName entry.2.name).toList =
        afterLast '$' (afterLast '.' entry.2.name.toList) := String.toList_ofList
    exact fun hdot => not_mem_afterLast '.' _ (afterLast_subset '$' _ (hsimple ▸ hdot))
  · rcases List.mem_pair.1 hfixed with rfl | rfl <;> decide

/-- Sources can be written for the classes of a registry. -/
theorem exists_placed (h : Config.isPackageName config.package = true) {decl : Java.ClassDecl}
    (hdecl : decl ∈ classesOf config registry) :
    ∃ simple ∈ classSuffixes registry, Files.Placed decl simple := by
  have hname : decl.name ∈ (classesOf config registry).map (·.name) := List.mem_map_of_mem hdecl
  rw [map_name_classesOf] at hname
  obtain ⟨simple, hsimple, hname⟩ := List.mem_map.1 hname
  exact ⟨simple, hsimple, package_of_mem_classesOf hdecl ▸ h, hname.symm,
    not_mem_dot_of_mem_classSuffixes hsimple⟩

/-- A registry has a class for each of its builders, besides the fixed ones. -/
theorem exists_placed_of_mem (h : Config.isPackageName config.package = true) {simple : String}
    (hsimple : simple ∈ classSuffixes registry) :
    ∃ decl ∈ classesOf config registry, Files.Placed decl simple := by
  have hname : entryName ++ simple ∈ (classesOf config registry).map (·.name) := by
    rw [map_name_classesOf]
    exact List.mem_map_of_mem hsimple
  obtain ⟨decl, hdecl, hname⟩ := List.mem_map.1 hname
  exact ⟨decl, hdecl, package_of_mem_classesOf hdecl ▸ h, hname,
    not_mem_dot_of_mem_classSuffixes hsimple⟩

end Api

namespace Session

open Files

variable {session : Session} {round : Round} {classes : List Java.ClassDecl}

/-- **Where sources go.** The sources of a round go below every root exactly if no segment of the
package starts with a slash. The way there is told by the segments of the package and the name of
the class, as they are, exactly if there is no slash in any segment or simple name of a builder. -/
theorem sourcePath_leadsDown_iff {options : Config.Options}
    (hoptions : Config.ofOptions options = .ok session.config)
    (h : session.outcomeOf round = .generated classes) :
    ((∀ decl ∈ classes, ∀ root, ∃ names, Path.LeadsDown root names (sourcePath root decl)) ↔
      ∀ segment ∈ Text.segments '.' session.config.package, segment.toList.head? ≠ some '/') ∧
    ((∀ decl ∈ classes, ∀ root, Path.LeadsDown root (sourceTexts decl) (sourcePath root decl)) ↔
      (∀ segment ∈ Text.segments '.' session.config.package, '/' ∉ segment.toList) ∧
        ∀ entry ∈ round.builders, '/' ∉ entry.2.simpleName.toList) := by
  have hpackage := Config.isPackageName_of_ofOptions hoptions
  obtain ⟨-, rfl⟩ := eq_classesOf_of_outcomeOf h
  have hentry : "" ∈ classSuffixes round.registry := List.mem_append_right _ List.mem_cons_self
  constructor
  · constructor
    · intro hdown
      obtain ⟨decl, hdecl, hplaced⟩ := exists_placed_of_mem hpackage hentry
      exact package_of_mem_classesOf hdecl ▸ hplaced.exists_leadsDown_iff.1 (hdown decl hdecl)
    · intro hslash decl hdecl
      obtain ⟨simple, -, hplaced⟩ := exists_placed hpackage hdecl
      exact hplaced.exists_leadsDown_iff.2 (package_of_mem_classesOf hdecl ▸ hslash)
  · constructor
    · intro hdown
      have hboth : ∀ simple ∈ classSuffixes round.registry,
          (∀ segment ∈ Text.segments '.' session.config.package, '/' ∉ segment.toList) ∧
            '/' ∉ simple.toList := by
        intro simple hsimple
        obtain ⟨decl, hdecl, hplaced⟩ := exists_placed_of_mem hpackage hsimple
        exact package_of_mem_classesOf hdecl ▸
          hplaced.leadsDown_sourceTexts_iff.1 (hdown decl hdecl)
      refine ⟨(hboth "" hentry).1, fun entry hmem => ?_⟩
      exact (hboth _ (List.mem_append_left _ (List.mem_map_of_mem hmem))).2
    · rintro ⟨hsegments, hbuilders⟩ decl hdecl
      obtain ⟨simple, hsimple, hplaced⟩ := exists_placed hpackage hdecl
      refine hplaced.leadsDown_sourceTexts_iff.2
        ⟨package_of_mem_classesOf hdecl ▸ hsegments, ?_⟩
      rcases List.mem_append.1 hsimple with hbuilder | hfixed
      · obtain ⟨entry, hmem, rfl⟩ := List.mem_map.1 hbuilder
        exact hbuilders entry hmem
      · rcases List.mem_pair.1 hfixed with rfl | rfl <;> decide

theorem sourcePath_leadsDown_iff_serviceRound :
    Config.ofOptions [] = .ok ({} : Session).config ∧
      ∃ classes, ({} : Session).outcomeOf serviceRound = .generated classes ∧
        ∀ decl ∈ classes, ∀ root,
          Path.LeadsDown root (sourceTexts decl) (sourcePath root decl) := by
  have hoptions : Config.ofOptions [] = .ok ({} : Session).config := rfl
  have hsegments :
      (Text.segments '.' ({} : Config).package).all (!·.toList.contains '/') = true := by
    decide
  have hbuilders : serviceRound.builders.all (!·.2.simpleName.toList.contains '/') = true := by
    decide
  refine ⟨hoptions, _, outcomeOf_serviceRound, ?_⟩
  refine (sourcePath_leadsDown_iff hoptions outcomeOf_serviceRound).2.2 ⟨?_, ?_⟩
  · simpa using hsegments
  · simpa using hbuilders

/-- With a slash in front of its package, the sources of a round are written outside of the root. -/
theorem not_leadsDown_rootedPackage :
    ∃ (session : Session) (classes : List Java.ClassDecl),
      Config.ofOptions [(Config.packageKey, "/etc")] = .ok session.config ∧
        session.outcomeOf {} = .generated classes ∧
        ∃ decl ∈ classes, (sourcePath (.ofText "out") decl).text = "/etc/RxHttp.java" ∧
          ¬∃ names, Path.LeadsDown (.ofText "out") names (sourcePath (.ofText "out") decl) := by
  have hfailures (config : Config) : ({} : Round).failures config = [] :=
    Round.failures_eq_nil_of_no_fields rfl (List.forall_mem_nil _)
  have hclear (config : Config) : ¬Clashes config ({} : Round).registry :=
    not_clashes_of_no_wrappers List.nodup_nil (List.forall_mem_nil _)
  refine ⟨{ config := { package := "/etc" } }, _, rfl,
    outcomeOf_of_not_clashes _ (hfailures _) (hclear _), entryOf { package := "/etc" } {},
    ?_, ?_, ?_⟩
  · exact mem_classesOf_iff.2 (.inr (.inl rfl))
  · decide
  · rintro ⟨names, hdown⟩
    exact absurd hdown.absolute_eq (by decide)

end Session

end FluentHttp
