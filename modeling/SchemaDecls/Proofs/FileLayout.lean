import Mathlib.Data.List.DropRight
import SchemaDecls.Proofs.Clashes
import SchemaDecls.Proofs.SectionText
import SchemaDecls.Proofs.Success

/-!
# The layout of a file

A file has a banner and up to three sections, with an empty line between two of them and one
line break at the end.  Texts of references and custom types are taken over as they are, so a
section may end in line breaks, and these are dropped.  Neither is a section lost by that, nor
do two sections move together or apart: a section that declares something opens with a
character that can be seen, and so does what is left of it (`IsTrimmed.opensVisibly`).  So a
section is in the file exactly if its pass declares something, and the line breaks between two
sections are those that are put there (`generate_layout`).

The banner is not looked at by the passes.  Without it the file is what stands behind it.
-/

namespace SchemaDecls

/-! ## Texts that end visibly -/

/-- The text ends with a character that is no line break. -/
def EndsVisibly (text : String) : Prop :=
  ∃ c, text.toList.getLast? = some c ∧ c ≠ '\n'

/-- The text ends with one line break and no more. -/
def EndsInOneBreak (text : String) : Prop :=
  ∃ body : String, text = body ++ "\n" ∧ body.toList.getLast? ≠ some '\n'

/-- The second text is the first without the line breaks at its end. -/
def IsTrimmed (text trimmed : String) : Prop :=
  trimmed.toList.getLast? ≠ some '\n' ∧
    ∃ breaks, text.toList = trimmed.toList ++ List.replicate breaks '\n'

theorem endsVisibly_iff {text : String} :
    EndsVisibly text ↔ text ≠ "" ∧ text.toList.getLast? ≠ some '\n' := by
  constructor
  · rintro ⟨c, hlast, hc⟩
    refine ⟨?_, ?_⟩
    · rintro rfl
      contradiction
    · rw [hlast]
      exact fun heq => hc (Option.some.inj heq)
  · rintro ⟨hne, hlast⟩
    cases hend : text.toList.getLast? with
    | none => exact absurd (by simpa using hend) hne
    | some c => exact ⟨c, hend, fun hc => hlast (hc ▸ hend)⟩

theorem EndsVisibly.append {text : String} (h : EndsVisibly text) (before : String) :
    EndsVisibly (before ++ text) := by
  obtain ⟨c, hlast, hc⟩ := h
  exact ⟨c, by simp [List.getLast?_append, hlast], hc⟩

/-- A join ends as its last part does. -/
theorem EndsVisibly.intercalate {separator : String} {parts : List String} (hne : parts ≠ [])
    (h : ∀ part ∈ parts, EndsVisibly part) : EndsVisibly (separator.intercalate parts) := by
  induction parts with
  | nil => contradiction
  | cons first rest ih =>
      obtain ⟨hfirst, hrest⟩ := List.forall_mem_cons.mp h
      cases rest with
      | nil => simpa using hfirst
      | cons second rest =>
          rw [String.intercalate_cons_cons]
          exact (ih (by simp) hrest).append _

/-! ## Trimmed texts -/

theorem toList_dropFinalBreaks (text : String) :
    (dropFinalBreaks text).toList = text.toList.rdropWhile (· == '\n') := by
  simp [dropFinalBreaks, List.rdropWhile]

theorem isTrimmed_dropFinalBreaks (text : String) : IsTrimmed text (dropFinalBreaks text) := by
  unfold IsTrimmed
  rw [toList_dropFinalBreaks]
  constructor
  · intro hlast
    obtain ⟨before, hbefore⟩ := List.getLast?_eq_some_iff.mp hlast
    have hne : text.toList.rdropWhile (· == '\n') ≠ [] := by simp [hbefore]
    have hnot := List.rdropWhile_last_not (· == '\n') text.toList hne
    simp [hbefore] at hnot
  · have hbreaks : ∀ c ∈ text.toList.rtakeWhile (· == '\n'), c = '\n' := by
      intro c hc
      simpa using List.mem_rtakeWhile_imp hc
    refine ⟨(text.toList.rtakeWhile (· == '\n')).length, ?_⟩
    rw [← List.eq_replicate_of_mem hbreaks, List.rdropWhile_append_rtakeWhile]

namespace IsTrimmed

variable {text trimmed : String}

/-- What can be seen at the start of a text stays. -/
theorem opensVisibly (h : IsTrimmed text trimmed) (hopens : OpensVisibly text) :
    OpensVisibly trimmed := by
  obtain ⟨-, breaks, htext⟩ := h
  obtain ⟨c, rest, hopens, hc⟩ := hopens
  cases htrimmed : trimmed.toList with
  | nil =>
      rw [htrimmed, List.nil_append, hopens] at htext
      have hmem : c ∈ List.replicate breaks '\n' := htext ▸ List.mem_cons_self
      exact absurd (List.eq_of_mem_replicate hmem) hc
  | cons d more =>
      rw [htrimmed, hopens, List.cons_append] at htext
      obtain rfl := (List.cons.inj htext).1
      exact ⟨c, more, htrimmed, hc⟩

theorem endsVisibly (h : IsTrimmed text trimmed) (hopens : OpensVisibly text) :
    EndsVisibly trimmed :=
  endsVisibly_iff.mpr ⟨(h.opensVisibly hopens).ne_empty, h.1⟩

end IsTrimmed

theorem opensVisibly_sectionText {ds : List Declared} (hne : ds ≠ [])
    (h : ∀ d ∈ ds, OpensVisibly d.text) : OpensVisibly (sectionText ds) := by
  cases ds with
  | nil => contradiction
  | cons first rest =>
      have hfirst : OpensVisibly first.text := h first List.mem_cons_self
      cases rest with
      | nil => simpa [sectionText] using hfirst
      | cons second rest =>
          unfold sectionText
          rw [List.map_cons, List.map_cons, String.intercalate_cons_cons]
          exact (hfirst.append _).append _

/-! ## Sections that are present -/

/-- The sections that declare something, in the order in which they are written. -/
def presentSections (ds : Section → List Declared) : List Section :=
  Section.all.filter fun which => !(ds which).isEmpty

theorem mem_presentSections_iff {ds : Section → List Declared} {which : Section} :
    which ∈ presentSections ds ↔ ds which ≠ [] := by
  simp [presentSections, Section.mem_all]

/-- What a pass comes to on its own, from a root and from what it has visited before: its
declarations, and the text that they are joined to on the way. -/
structure Section.Writes (which : Section) (g : Graph) (o : Options) (root : Child) (m : Memo)
    (ds : List Declared) (text : String) : Prop where
  walk : ∃ rootText, rootName g root = .ok rootText ∧
    (Walk.walk g o (Pass.ofSection o (some rootText) which) root (m.get which)).result = .ok ds ∧
    (Walk.write g o (Pass.ofSection o (some rootText) which) root (m.get which)).result = .ok text
  opens : ds ≠ [] → OpensVisibly text
  empty : ds = [] → text = ""

/-- A file with a banner, and with the sections of those passes that declare something. -/
structure FileLayout (banner : String) (ds : Section → List Declared)
    (texts parts : Section → String) (file : String) : Prop where
  trimmed : ∀ which, IsTrimmed (texts which) (parts which)
  /-- The line breaks between two sections, and those behind the banner, are all there are. -/
  visible : ∀ which ∈ presentSections ds,
    OpensVisibly (parts which) ∧ EndsVisibly (parts which)
  file_eq : file = "\n\n".intercalate
    ((if banner = "" then [] else [banner]) ++ (presentSections ds).map parts) ++ "\n"
  ends : EndsInOneBreak file
  opens : banner.toList <+: file.toList

section

variable {g : Graph} {o : Options} {root : Child} {m : Memo} {d : Declarations}

theorem runPasses_writes (h : (runPasses g o root m).result = .ok d) (which : Section) :
    which.Writes g o root m (d.get which) (sectionText (d.get which)) := by
  obtain ⟨rootText, hroot, hwalks⟩ := runPasses_eq_ok h
  have hwalk := congrArg Outcome.result (hwalks which)
  refine ⟨⟨rootText, hroot, hwalk, ?_⟩, ?_, ?_⟩
  · rw [Walk.write_result, hwalk]
    rfl
  · intro hne
    apply opensVisibly_sectionText hne
    intro x hx
    obtain ⟨⟨n, -, htext⟩, -⟩ := runPasses_declared h hx
    exact (Declaration.ofNode_eq_ok htext).2
  · intro hnil
    rw [hnil]
    rfl

/-- The parts of a file that are not empty are the banner and the sections that are present. -/
theorem fileText_eq (banner : String)
    (hopens : ∀ which, d.get which ≠ [] → OpensVisibly (sectionText (d.get which))) :
    fileText banner d.texts = "\n\n".intercalate ((if banner = "" then [] else [banner]) ++
      (presentSections d.get).map fun which => dropFinalBreaks (sectionText (d.get which))) ++
        "\n" := by
  have htexts : d.texts.map dropFinalBreaks =
      Section.all.map fun which => dropFinalBreaks (sectionText (d.get which)) := rfl
  have hpresent : ∀ which, (dropFinalBreaks (sectionText (d.get which)) != "") =
      !(d.get which).isEmpty := by
    intro which
    by_cases hnil : d.get which = []
    · rw [hnil]
      decide +kernel
    · have hne := ((isTrimmed_dropFinalBreaks _).opensVisibly (hopens which hnil)).ne_empty
      have hfull : (d.get which).isEmpty = false := List.isEmpty_eq_false_iff.mpr hnil
      rw [hfull, bne_iff_ne.mpr hne]
      rfl
  have hkept : (Section.all.map fun which => dropFinalBreaks (sectionText (d.get which))).filter
      (· != "") =
      (presentSections d.get).map fun which => dropFinalBreaks (sectionText (d.get which)) := by
    rw [List.filter_map, presentSections]
    exact congrArg _ (List.filter_congr fun which _ => hpresent which)
  rw [fileText, htexts, List.filter_cons, hkept]
  by_cases hbanner : banner = "" <;> simp [hbanner]

theorem fileLayout_of_run {banner : String} (h : (runPasses g o root m).result = .ok d)
    (hbanner : banner.toList.getLast? ≠ some '\n') :
    FileLayout banner d.get (fun which => sectionText (d.get which))
      (fun which => dropFinalBreaks (sectionText (d.get which))) (fileText banner d.texts) := by
  have hopens : ∀ which, d.get which ≠ [] → OpensVisibly (sectionText (d.get which)) :=
    fun which => (runPasses_writes h which).opens
  have hfile := fileText_eq banner hopens
  have htrimmed : ∀ which, IsTrimmed (sectionText (d.get which))
      (dropFinalBreaks (sectionText (d.get which))) := fun which => isTrimmed_dropFinalBreaks _
  have hvisible : ∀ which ∈ presentSections d.get,
      OpensVisibly (dropFinalBreaks (sectionText (d.get which))) ∧
        EndsVisibly (dropFinalBreaks (sectionText (d.get which))) := by
    intro which hwhich
    have hsection := hopens which (mem_presentSections_iff.mp hwhich)
    exact ⟨(htrimmed which).opensVisibly hsection, (htrimmed which).endsVisibly hsection⟩
  refine ⟨htrimmed, hvisible, hfile, ?_, ?_⟩
  · refine ⟨_, hfile, ?_⟩
    generalize hparts : (if banner = "" then [] else [banner]) ++ (presentSections d.get).map
      (fun which => dropFinalBreaks (sectionText (d.get which))) = parts
    have hends : ∀ part ∈ parts, EndsVisibly part := by
      intro part hpart
      rw [← hparts] at hpart
      rcases List.mem_append.mp hpart with hpart | hpart
      · by_cases hempty : banner = ""
        · simp [hempty] at hpart
        · obtain rfl : part = banner := by simpa [hempty] using hpart
          exact endsVisibly_iff.mpr ⟨hempty, hbanner⟩
      · obtain ⟨which, hwhich, rfl⟩ := List.mem_map.mp hpart
        exact (hvisible which hwhich).2
    by_cases hnil : parts = []
    · simp [hnil]
    · exact (endsVisibly_iff.mp (.intercalate hnil hends)).2
  · rw [hfile]
    by_cases hempty : banner = ""
    · simp [hempty]
    · rw [if_neg hempty]
      cases (presentSections d.get).map
          (fun which => dropFinalBreaks (sectionText (d.get which))) with
      | nil => simp
      | cons first rest => simp [String.intercalate_cons_cons]

end

/-! ## Files without their banners -/

section

variable {g : Graph} {o o' : Options} {d : Declarations}

/-- The banner does not show in declarations. -/
theorem Declaration.ofNode_set_banner (g : Graph) (o : Options) (v : Value) (n : Node) :
    ofNode g (o.set .banner v) n = ofNode g o n := by
  unfold ofNode
  split <;> rfl

theorem Walk.walkUpTo_congr_options (h : ∀ n, Declaration.ofNode g o n = Declaration.ofNode g o' n)
    (p : Pass) (depth : Nat) : walkUpTo g o p depth = walkUpTo g o' p depth := by
  have hdeclareIf : ∀ declares, declareIf declares g o = declareIf declares g o' := by
    intro declares
    funext id n v
    simp only [declareIf, h]
  induction depth with
  | zero => rfl
  | succ depth ih =>
      funext c v
      simp only [walkUpTo, follow, ih, hdeclareIf]

/-- Nor does it show in what the passes visit. -/
theorem runPasses_set_banner (g : Graph) (o : Options) (v : Value) (root : Child) (m : Memo) :
    runPasses g (o.set .banner v) root m = runPasses g o root m := by
  have hpass : ∀ name which, Pass.ofSection (o.set .banner v) name which =
      Pass.ofSection o name which := by
    intro name which
    cases which <;> rfl
  have hsection : ∀ name which root m, runSection g (o.set .banner v) name which root m =
      runSection g o name which root m := by
    intro name which root m
    simp only [runSection, Walk.walk, hpass,
      Walk.walkUpTo_congr_options (Declaration.ofNode_set_banner g o v)]
  unfold runPasses
  simp only [hsection]

/-- A file with a banner is the banner, an empty line if there are sections, and the file
without one. -/
theorem fileText_eq_append (banner : String)
    (hopens : ∀ which, d.get which ≠ [] → OpensVisibly (sectionText (d.get which))) :
    fileText banner d.texts =
      banner ++ (if banner = "" ∨ presentSections d.get = [] then "" else "\n\n") ++
        fileText "" d.texts := by
  rw [fileText_eq banner hopens, fileText_eq "" hopens]
  by_cases hempty : banner = ""
  · simp [hempty]
  · cases hpresent : presentSections d.get with
    | nil => simp [hempty]
    | cons first rest => simp [hempty, String.intercalate_cons_cons, String.append_assoc]

end

/-- A file that is returned has the banner in front, as it is, one line break at its end, and
between them the sections of those passes that declare something, in their order.  Each section
is the text of its pass without the line breaks at its end, and an empty line stands between
the parts.  Without the banner the same file is returned, but for the banner and the empty line
behind it. -/
theorem generate_layout (g : Graph) (o : Options) (root : Child) (m : Memo) (banner text : String)
    (hbanner : o.banner = .str banner) (hend : banner.toList.getLast? ≠ some '\n')
    (h : (generate g o root m).result = .ok text) :
    ∃ (ds : Section → List Declared) (texts parts : Section → String) (rest : String),
      (∀ which : Section, which.Writes g o root m (ds which) (texts which)) ∧
      FileLayout banner ds texts parts text ∧
      (generate g (o.set .banner (.str "")) root m).result = .ok rest ∧
      text = banner ++ (if banner = "" ∨ presentSections ds = [] then "" else "\n\n") ++ rest := by
  obtain ⟨b, d, hwritten, hrun, -, rfl⟩ := generate_eq_ok h
  obtain rfl : banner = b := by
    simp only [bannerText, hbanner] at hwritten
    exact Except.ok.inj hwritten
  refine ⟨d.get, _, _, fileText "" d.texts, runPasses_writes hrun, fileLayout_of_run hrun hend, ?_,
    fileText_eq_append banner fun which => (runPasses_writes hrun which).opens⟩
  apply generate_of_run _ rfl
  rw [runPasses_set_banner]
  exact hrun

/-- A note whose text is of a type that is given with line breaks behind it. -/
def noteGraph : Graph := ⟨#[
  ⟨.interface [⟨some "text", .node 1, true, false, false⟩] [], some "note", none⟩,
  ⟨.custom "string\n\n", some "text", none⟩]⟩

/-- The file of the note. -/
def noteFile : String :=
  "// Notes\n\nexport type Text = string\n\nexport interface Note \x7b\ntext: Text\n\x7d\n"

theorem noteGraph_layout :
    "// Notes".toList.getLast? ≠ some '\n' ∧
      (generate noteGraph (Options.default.set .banner (.str "// Notes")) (.node 0) .empty).result =
        .ok noteFile ∧
      ∃ (ds : Section → List Declared) (texts parts : Section → String) (rest : String),
        (∀ which : Section, which.Writes noteGraph (Options.default.set .banner (.str "// Notes"))
          (.node 0) .empty (ds which) (texts which)) ∧
        FileLayout "// Notes" ds texts parts noteFile ∧
        (generate noteGraph (Options.default.set .banner (.str "")) (.node 0) .empty).result =
          .ok rest ∧
        noteFile = "// Notes" ++
          (if "// Notes" = "" ∨ presentSections ds = [] then "" else "\n\n") ++ rest := by
  have hend : "// Notes".toList.getLast? ≠ some '\n' := by decide +kernel
  have hfile : (generate noteGraph (Options.default.set .banner (.str "// Notes")) (.node 0)
      .empty).result = .ok noteFile := eq_ok_of_toOption (by decide +kernel)
  exact ⟨hend, hfile, generate_layout _ _ _ _ _ _ rfl hend hfile⟩

end SchemaDecls
