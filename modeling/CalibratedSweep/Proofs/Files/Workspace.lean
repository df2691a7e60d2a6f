import CalibratedSweep.Files.Workspace
import CalibratedSweep.Proofs.Files.Lookup
/-!
The result file of a workspace. Once it is open it holds some content, and what is written goes
behind that. A file that is there can always be opened; a vacant path is one where opening gives an
empty file.
-/

namespace CalibratedSweep

namespace Files

theorem follow_append (f : Files) (place : Place) (a b : List String) :
    f.follow place (a ++ b) = (f.follow place a).bind fun p => f.follow p b := by
  induction a generalizing place with
  | nil => rfl
  | cons name a ih =>
    rw [List.cons_append, follow, follow]
    split
    · rfl
    · rfl
    · rfl
    · split
      · rfl
      · split
        · exact ih _
        · split <;> exact ih _

theorem directory_of_follow {f : Files} {place target : Place} {name : String}
    (h : f.follow place [name] = .ok target) : f.get? place = some .directory := by
  rw [follow] at h
  split at h
  · cases h
  · cases h
  · cases h
  · assumption

theorem makeDirectories_of_directory {f : Files} {base target : Place} {absolute : Bool}
    {names : List String} (h : f.follow (if absolute then [] else base) names.reverse = .ok target)
    (hd : f.get? target = some .directory) : f.makeDirectories base absolute names = (.ok (), f) := by
  cases names with
  | nil => rfl
  | cons name above =>
    have hm : f.makeDirectory base ⟨absolute, (name :: above).reverse⟩ = .error .alreadyExists := by
      simp only [makeDirectory, h, hd]
    have hp : f.isDirectoryPath base ⟨absolute, (name :: above).reverse⟩ = true := by
      simp only [isDirectoryPath, h, isDirectory, hd]
      rfl
    simp only [makeDirectories, hm, settle, hp, ite_true]

/-- A slash behind the names asks for a directory, so a path to something else has none. -/
theorem follow_of_locate {f : Files} {base place : Place} {text : String}
    (h : f.locate base text = .ok place) (hd : f.get? place ≠ some .directory) :
    text.contains '\x00' = false ∧
      f.follow (if (Path.ofText text).absolute then [] else base) (Path.ofText text).names =
        .ok place := by
  unfold locate at h
  dsimp only at h
  generalize (if (Path.ofText text).absolute then [] else base) = root at h ⊢
  generalize (Path.ofText text).names = names at h ⊢
  by_cases hempty : text.isEmpty
  · simp [hempty] at h
  · by_cases hnul : text.contains '\x00'
    · simp [hempty, hnul] at h
    · rw [if_neg hempty, if_neg hnul] at h
      refine ⟨Bool.eq_false_iff.mpr hnul, ?_⟩
      by_cases hslash : text.endsWith "/"
      · rw [if_pos hslash, follow_append] at h
        cases ht : f.follow root names with
        | error e => simp [ht, Except.bind] at h
        | ok target =>
          rw [ht] at h
          have hdir := directory_of_follow h
          have hshort : ¬255 < ".".utf8ByteSize := by decide
          simp only [Except.bind, follow, hdir, hshort, if_true, if_false, Except.ok.injEq] at h
          exact absurd (h ▸ hdir) hd
      · rwa [if_neg hslash] at h

theorem makeParent_of_locate {f : Files} {base place : Place} {text : String}
    (h : f.locate base text = .ok place) (hd : f.get? place ≠ some .directory) :
    f.makeParent base text = (.ok (), f) := by
  obtain ⟨hnul, hnames⟩ := follow_of_locate h hd
  unfold makeParent Path.parent?
  generalize Path.ofText text = p at hnames
  by_cases hempty : p.names.isEmpty
  · rw [if_pos hempty]
  · rw [if_neg hempty]
    dsimp only
    split
    · rfl
    · have hsplit := List.dropLast_concat_getLast (l := p.names) (by simpa using hempty)
      rw [← hsplit, follow_append] at hnames
      cases hu : f.follow (if p.absolute then [] else base) p.names.dropLast with
      | error e => simp [hu, Except.bind] at hnames
      | ok upper =>
        rw [hu] at hnames
        rw [hnul, if_neg Bool.false_ne_true]
        exact makeDirectories_of_directory (by rwa [List.reverse_reverse])
          (directory_of_follow hnames)

end Files

namespace Workspace

theorem view_eq_file_iff {path : String} {w : Workspace} {content : Bytes} :
    view path w = .ok (.file content) ↔ ∃ place x, w.files.locate w.directory path = .ok place ∧
      w.files.get? place = some (.file content x) := by
  unfold view
  constructor
  · intro h
    split at h
    · cases h
    · cases h
    · cases h
    · cases h
    · rename_i x hs
      obtain ⟨place, hl, hg⟩ := Files.stat_eq_ok_iff.mp hs
      cases h
      exact ⟨place, x, hl, hg⟩
  · rintro ⟨place, x, hl, hg⟩
    rw [Files.stat_eq_ok_iff.mpr ⟨place, hl, hg⟩]

/-- The sink is open on the file at `path`, which holds `content`; writing goes to its end. -/
def Holds (path : String) (content : Bytes) (w : Workspace) : Prop :=
  ∃ h x, w.sink = some h ∧ w.files.locate w.directory path = .ok h.place ∧
    w.files.get? h.place = some (.file content x) ∧
    (h.position = none ∨ h.position = some content.length)

theorem Holds.view {path : String} {content : Bytes} {w : Workspace} (h : Holds path content w) :
    view path w = .ok (.file content) := by
  obtain ⟨h, x, -, hl, hg, -⟩ := h
  exact view_eq_file_iff.mpr ⟨h.place, x, hl, hg⟩

theorem Handle.overwrite_end (content added : Bytes) :
    Handle.overwrite content added content.length = content ++ added := by
  simp [Handle.overwrite]

theorem Handle.write_end {h : Handle} {f : Files} {content : Bytes} {x : Bool}
    (hg : f.get? h.place = some (.file content x))
    (hp : h.position = none ∨ h.position = some content.length) (b : Bytes) :
    h.write f b = (f.put h.place (.file (content ++ b) x),
      { h with position := h.position.map (· + b.length) }) := by
  obtain ⟨place, position⟩ := h
  obtain rfl | rfl := hp
  · simp only [Handle.write, hg, Option.map_none]
  · simp only [Handle.write, hg, overwrite_end, Option.map_some]

theorem Holds.extend {path : String} {content : Bytes} {w : Workspace} (h : Holds path content w)
    (b : Bytes) : ∃ t, extend b w = (.ok (), t) ∧ Holds path (content ++ b) t := by
  obtain ⟨h, x, hs, hl, hg, hp⟩ := h
  have hd : w.files.get? h.place ≠ some .directory := by simp [hg]
  refine ⟨_, by simp only [Workspace.extend, hs]; rfl, (h.write w.files b).2, x, rfl, ?_, ?_, ?_⟩
  · rw [Handle.write_end hg hp]
    exact Files.locate_put hd _ hl
  · rw [Handle.write_end hg hp]
    exact (Files.get?_put _ (Files.ne_nil_of_get? hd) _ _).trans (if_pos rfl)
  · rw [Handle.write_end hg hp]
    obtain hp | hp := hp <;> simp [hp]

theorem openFile_of_locate {f : Files} {base place : Place} {path : String} {content : Bytes}
    {x : Bool} (hl : f.locate base path = .ok place) (hg : f.get? place = some (.file content x))
    (truncate : Bool) : f.openFile base path truncate =
      .ok (f.put place (.file (if truncate then [] else content) x), place) := by
  simp only [Files.openFile, hl, hg]

theorem start_of_view {path : String} {content : Bytes} {w : Workspace}
    (h : view path w = .ok (.file content)) (mode : OpenMode) :
    ∃ t, start path mode w = (.ok (), t) ∧ Holds path (if mode = .truncate then [] else content) t := by
  obtain ⟨place, x, hl, hg⟩ := view_eq_file_iff.mp h
  have hd : w.files.get? place ≠ some .directory := by simp [hg]
  have hself (e : Entry) : (w.files.put place e).get? place = some e := by
    rw [Files.get?_put _ (Files.ne_nil_of_get? hd), if_pos rfl]
  cases mode with
  | truncate =>
    refine ⟨_, by simp only [start, Files.makeParent_of_locate hl hd, openFile_of_locate hl hg]; rfl,
      ?_⟩
    exact ⟨_, x, rfl, Files.locate_put hd _ hl, hself _, .inr rfl⟩
  | append =>
    refine ⟨_, by simp only [start, Files.makeParent_of_locate hl hd, openFile_of_locate hl hg]; rfl,
      ?_⟩
    exact ⟨_, x, rfl, Files.locate_put hd _ hl, hself _, .inl rfl⟩

theorem holds_of_start {path : String} {mode : OpenMode} {w t : Workspace}
    (h : start path mode w = (.ok (), t)) :
    ∃ content, Holds path content t ∧ (mode = .truncate → content = []) := by
  unfold start at h
  split at h
  · cases h
  · rename_i files hparent
    split at h
    · cases h
    · rename_i files' place hopen
      cases h
      unfold Files.openFile at hopen
      split at hopen
      · cases hopen
      · rename_i place' hl
        split at hopen
        · cases hopen
        · cases hopen
        · rename_i content x hg
          cases hopen
          have hd : files.get? place ≠ some .directory := by simp [hg]
          have hself := (Files.get?_put files (Files.ne_nil_of_get? hd) place
            (.file (if mode == .truncate then [] else content) x)).trans (if_pos rfl)
          refine ⟨_, ⟨_, x, rfl, Files.locate_put hd _ hl, hself, ?_⟩, ?_⟩
          · cases mode
            · exact .inr rfl
            · exact .inl rfl
          · rintro rfl; rfl
        · rename_i hg
          cases hopen
          have hd : files.get? place ≠ some .directory := by simp [hg]
          have hself := (Files.get?_put files (Files.ne_nil_of_get? hd) place (.file [] false)).trans
            (if_pos rfl)
          refine ⟨_, ⟨_, false, rfl, Files.locate_put hd _ hl, hself, ?_⟩, fun _ => rfl⟩
          cases mode
          · exact .inr rfl
          · exact .inl rfl

theorem openFile_truncate {f g : Files} {base place : Place} {path : String}
    (h : f.openFile base path false = .ok (g, place)) :
    ∃ g', f.openFile base path true = .ok (g', place) := by
  unfold Files.openFile at h ⊢
  split at h
  · cases h
  · split at h
    · cases h
    · cases h
    · cases h; exact ⟨_, rfl⟩
    · cases h; exact ⟨_, rfl⟩

theorem start_truncate {path : String} {w t : Workspace} (h : start path .append w = (.ok (), t)) :
    ∃ t', start path .truncate w = (.ok (), t') := by
  unfold start at h ⊢
  split at h
  · cases h
  · split at h
    · cases h
    · rename_i hopen
      obtain ⟨g', hg'⟩ := openFile_truncate hopen
      have ht : (OpenMode.truncate == OpenMode.truncate) = true := rfl
      dsimp only
      rw [ht, hg']
      exact ⟨_, rfl⟩

/-- No file is at `path`, or an empty one, and once it is opened it is there and empty. -/
def Vacant (path : String) (w : Workspace) : Prop :=
  (view path w = .ok .missing ∨ view path w = .ok (.file [])) ∧
    ∃ t, start path .append w = (.ok (), t) ∧ view path t = .ok (.file [])

theorem Vacant.start {path : String} {w : Workspace} (h : Vacant path w) (mode : OpenMode) :
    ∃ t, start path mode w = (.ok (), t) ∧ Holds path [] t := by
  obtain ⟨-, t, ht, hv⟩ := h
  cases mode with
  | truncate =>
    obtain ⟨t', ht'⟩ := start_truncate ht
    obtain ⟨content, hh, hc⟩ := holds_of_start ht'
    exact ⟨t', ht', hc rfl ▸ hh⟩
  | append =>
    obtain ⟨content, hh, -⟩ := holds_of_start ht
    rw [hh.view] at hv
    cases hv
    exact ⟨t, ht, hh⟩

def blank : Workspace := ⟨.empty, [], none⟩

theorem ofText_out : Path.ofText "out.csv" = ⟨false, ["out.csv"]⟩ := by decide +kernel

theorem locate_out (f : Files) : f.locate [] "out.csv" = f.follow [] ["out.csv"] := by
  have hnul : "out.csv".contains '\x00' = false := by
    rw [String.contains_char_eq]
    decide
  have hslash : "out.csv".endsWith "/" = false := by decide +kernel
  unfold Files.locate
  rw [hnul, hslash, ofText_out]
  rfl

theorem makeParent_out (f : Files) : f.makeParent [] "out.csv" = (.ok (), f) := by
  unfold Files.makeParent
  rw [ofText_out]
  rfl

def oneFile (content : Bytes) : Workspace := ⟨⟨[(["out.csv"], .file content false)]⟩, [], none⟩

theorem view_oneFile (content : Bytes) : view "out.csv" (oneFile content) = .ok (.file content) :=
  view_eq_file_iff.mpr ⟨["out.csv"], false, locate_out _, rfl⟩

theorem vacant_blank : Vacant "out.csv" blank := by
  have hl : blank.files.locate blank.directory "out.csv" = .ok ["out.csv"] := locate_out _
  have hp : blank.files.makeParent blank.directory "out.csv" = (.ok (), blank.files) :=
    makeParent_out _
  have hv : view "out.csv" blank = .ok .missing := by
    simp only [view, Files.stat, hl]
    rfl
  have hs : start "out.csv" .append blank = (.ok (),
      ⟨⟨[(["out.csv"], .file [] false)]⟩, [], some ⟨["out.csv"], none⟩⟩) := by
    simp only [start, hp, Files.openFile, hl]
    rfl
  exact ⟨.inl hv, _, hs, view_oneFile []⟩

def closed (w : Workspace) : Workspace := { w with sink := none }

theorem start_closed {path : String} {mode : OpenMode} {w t : Workspace}
    (h : Workspace.start path mode w = (.ok (), t)) :
    Workspace.start path mode w.closed = (.ok (), t) := by
  unfold Workspace.start at h ⊢
  split at h
  · cases h
  · rename_i hp
    split at h
    · cases h
    · rename_i ho
      simp only [closed, hp, ho]
      exact h

theorem Vacant.closed {path : String} {w : Workspace} (h : Vacant path w) : Vacant path w.closed := by
  obtain ⟨hv, t, ht, hvt⟩ := h
  exact ⟨hv, t, start_closed ht, hvt⟩

/-! The output is the result file as long as no pipe is in its place. -/

theorem output_of_no_pipe {path : String} {w : Workspace} (h : pipe? path w = none) :
    (output path).view w = view path w ∧
      ∀ mode, (output path).start mode w = Workspace.start path mode w := by
  constructor
  · simp only [output, h, Option.isSome_none, Bool.false_eq_true, if_false]
  · intro mode
    simp only [output, h]

theorem Holds.output_extend {path : String} {content : Bytes} {w : Workspace}
    (h : Holds path content w) (b : Bytes) :
    (output path).extend b w = Workspace.extend b w := by
  obtain ⟨h, x, hs, -, hg, -⟩ := h
  simp only [output, hs, Option.bind_some, hg]

def piped (lines : Nat) : Workspace := ⟨⟨[(["out.csv"], .pipe lines)]⟩, [], none⟩

theorem pipe?_piped (lines : Nat) : pipe? "out.csv" (piped lines) = some (["out.csv"], lines) := by
  have hl : (piped lines).files.locate (piped lines).directory "out.csv" = .ok ["out.csv"] :=
    locate_out _
  unfold pipe?
  rw [hl]
  rfl

end Workspace

end CalibratedSweep
