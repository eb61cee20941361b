import TelemetryGateway.Lock.FilePath
import TelemetryGateway.Proofs.Lock.Files

/-!
# Where the files of a lock lie

The name of a target may look like a path: it may have slashes in it, be a dot or two, or begin at
the root.  What is made of it is the name of one entry, whatever the target
(`LockFile.isName_name`), so its lock file and its sidecar lie in the lock directory itself
(`LockFile.paths_of_target`).

The sidecar is found from the path of the lock file: the last part is taken away and another one put
in its place.  That this comes back to the lock directory rests on two facts about paths:

* `FilePath.parts_join`: to go on from a directory to a name adds one part to its parts, however the
  directory is written;
* `FilePath.exists_parent?`: the last part of a path can be taken away again, unless it is the root.
-/

namespace TelemetryGateway

namespace FilePath

variable {p dir : FilePath} {a b : List Char} {name : String} {init : List PathPart} {x : PathPart}

/-! ## Parts and slashes

A text is read up to its last slash; what stands after that is one piece.  The slash may be the one
that the path begins with, and then it is a part of its own. -/

/-- Every text is built from its pieces, one slash after the other. -/
@[elab_as_elim]
theorem piece_induction {motive : List Char → Prop} (piece : ∀ b, '/' ∉ b → motive b)
    (slash : ∀ a b, '/' ∉ b → motive a → motive (a ++ '/' :: b)) (a : List Char) : motive a := by
  by_cases hslash : '/' ∈ a
  case neg => exact piece a hslash
  case pos =>
    -- the last slash is the first one from the other end
    obtain ⟨r, l, hsplit, hnone⟩ := List.eq_append_cons_of_mem (List.mem_reverse.mpr hslash)
    have hr : '/' ∉ r.reverse := fun hmem => hnone (List.mem_reverse.mp hmem)
    have ha : a = l.reverse ++ '/' :: r.reverse := by simpa using congrArg List.reverse hsplit
    have hshorter : l.reverse.length < a.length := by
      rw [ha, List.length_append, List.length_cons]
      omega
    rw [ha]
    exact slash _ _ hr (piece_induction piece slash l.reverse)
termination_by a.length

theorem pieces_of_notMem (hb : '/' ∉ b) : pieces ⟨b⟩ = [b] := List.splitOn_eq_singleton hb

theorem pieces_append_slash (a : List Char) (hb : '/' ∉ b) :
    pieces ⟨a ++ '/' :: b⟩ = pieces ⟨a⟩ ++ [b] := by
  rw [← pieces_of_notMem hb]
  exact List.splitOn_append_cons_self a b

theorem filterMap_singleton (b : List Char) : [b].filterMap partOf? = (partOf? b).toList := by
  cases hpart : partOf? b with
  | none => simp [hpart]
  | some x => simp [hpart]

/-- A text without slashes is one part at most. -/
theorem parts_of_notMem (hb : '/' ∉ b) :
    parts ⟨b⟩ = if b = ['.'] then [.here] else (partOf? b).toList := by
  have hrelative : isAbsolute ⟨b⟩ = false := by
    rw [isAbsolute, beq_eq_false_iff_ne]
    exact fun hhead => hb (List.mem_of_head? hhead)
  rw [parts, lead, hrelative, pieces_of_notMem hb, filterMap_singleton]
  by_cases hdot : b = ['.']
  · subst hdot
    rfl
  · simp [hdot]

/-- The slash at the beginning. -/
theorem parts_slash (hb : '/' ∉ b) : parts ⟨'/' :: b⟩ = .root :: (partOf? b).toList := by
  have hpieces : pieces ⟨'/' :: b⟩ = [] :: [b] := pieces_append_slash [] hb
  rw [parts, hpieces, List.filterMap_cons_none rfl, filterMap_singleton]
  rfl

/-- Any other slash. -/
theorem parts_append_slash (ha : a ≠ []) (hb : '/' ∉ b) :
    parts ⟨a ++ '/' :: b⟩ = parts ⟨a⟩ ++ (partOf? b).toList := by
  have hpieces : pieces ⟨a⟩ ≠ [] := List.splitOn_ne_nil '/' a
  have hlead : lead ⟨a ++ '/' :: b⟩ = lead ⟨a⟩ := by
    rw [lead, lead, isAbsolute, isAbsolute, pieces_append_slash a hb,
      List.head?_append_of_ne_nil _ ha, List.head?_append_of_ne_nil _ hpieces]
  rw [parts, hlead, pieces_append_slash a hb, List.filterMap_append, filterMap_singleton,
    ← List.append_assoc, ← parts]

/-- What stands after a slash is added to what the text up to the slash comes to. -/
theorem parts_after_slash (a : List Char) (hb : '/' ∉ b) :
    parts ⟨a ++ '/' :: b⟩ = parts ⟨a ++ ['/']⟩ ++ (partOf? b).toList := by
  by_cases ha : a = []
  · subst ha
    exact parts_slash hb
  · rw [parts_append_slash ha hb, parts_append_slash ha List.not_mem_nil]
    exact congrArg (· ++ _) (List.append_nil _).symm

/-! ## The path above a path -/

/-- Some beginning of a text has all its parts but the last, unless that is the root. -/
theorem exists_beginning (h : parts ⟨a⟩ = init ++ [x]) (hx : x ≠ .root) :
    ∃ n ≤ a.length, parts ⟨a.take n⟩ = init := by
  induction a using piece_induction with
  | piece b hb =>
      have hlength : (parts ⟨b⟩).length ≤ 1 := by
        rw [parts_of_notMem hb]
        split
        · exact Nat.le_refl 1
        · exact Option.length_toList_le
      rw [h, List.length_append, List.length_singleton] at hlength
      have hinit : init = [] := List.eq_nil_of_length_eq_zero (by omega)
      exact ⟨0, Nat.zero_le _, by rw [hinit]; rfl⟩
  | slash a b hb ih =>
      rw [parts_after_slash a hb] at h
      cases hpart : partOf? b with
      | some y =>
          -- the part after the slash goes, and the slash may stay
          rw [hpart, Option.toList_some] at h
          have hinit : parts ⟨a ++ ['/']⟩ = init := (List.append_inj' h rfl).1
          have htake : (a ++ '/' :: b).take (a ++ ['/']).length = a ++ ['/'] := by
            rw [List.append_cons a '/' b, List.take_left]
          exact ⟨(a ++ ['/']).length, by simp, by rw [htake, hinit]⟩
      | none =>
          -- nothing stands after the slash, so the part that goes is before it
          rw [hpart, Option.toList_none, List.append_nil] at h
          by_cases ha : a = []
          · subst ha
            have hroot : [] ++ [PathPart.root] = init ++ [x] := h
            have hx' : [PathPart.root] = [x] := (List.append_inj' hroot rfl).2
            exact absurd (List.singleton_inj.mp hx').symm hx
          · rw [parts_append_slash ha List.not_mem_nil] at h
            obtain ⟨n, hn, hparts⟩ := ih ((List.append_nil _).symm.trans h)
            refine ⟨n, ?_, by rwa [List.take_append_of_le_length hn]⟩
            rw [List.length_append]
            omega

/-- A path can be left for the one above it, unless it is the root or empty. -/
theorem exists_parent? (h : p.parts = init ++ [x]) (hx : x ≠ .root) :
    ∃ q, p.parent? = some q ∧ q.parts = init := by
  have hparent : p.parent? = p.beginnings.find? fun q => q.parts == init := by
    rw [parent?, h, List.getLast?_concat, List.dropLast_concat]
    cases x with
    | root => exact absurd rfl hx
    | here | up | entry name => rfl
  obtain ⟨n, hn, hparts⟩ := exists_beginning h hx
  have hfound : (p.beginnings.find? fun q => q.parts == init).isSome = true := by
    refine List.find?_isSome.mpr ⟨⟨p.chars.take n⟩, ?_, beq_iff_eq.mpr hparts⟩
    exact List.mem_map.mpr ⟨n, List.mem_range.mpr (Nat.lt_succ_of_le hn), rfl⟩
  obtain ⟨q, hq⟩ := Option.isSome_iff_exists.mp hfound
  exact ⟨q, hparent.trans hq, by simpa using List.find?_some hq⟩

theorem fileName?_of_parts (h : p.parts = init ++ [.entry name]) : p.fileName? = some name := by
  rw [fileName?, h, List.getLast?_concat]

/-! ## Names -/

/-- A text that is one part of a path, and that part is a name. -/
structure IsName (name : String) : Prop where
  slash : '/' ∉ name.toList
  part : partOf? name.toList = some (.entry name)

/-- A text without slashes that ends in something else than a dot. -/
theorem isName_of_getLast? {c : Char} (hslash : '/' ∉ name.toList)
    (hlast : name.toList.getLast? = some c) (hc : c ≠ '.') : IsName name where
  slash := hslash
  part := by
    have hne : ∀ dots : List Char, dots.getLast? ≠ some c → name.toList ≠ dots := by
      intro dots hdots heq
      exact hdots (heq ▸ hlast)
    have hblank : ¬ (name.toList = [] ∨ name.toList = ['.']) :=
      not_or.mpr ⟨hne _ (by simp), hne _ (by simpa using hc.symm)⟩
    rw [partOf?, if_neg hblank, if_neg (hne _ (by simpa using hc.symm)), String.ofList_toList]

theorem IsName.isAbsolute (h : IsName name) : (ofText name).isAbsolute = false := by
  rw [FilePath.isAbsolute, beq_eq_false_iff_ne]
  exact fun hhead => h.slash (List.mem_of_head? hhead)

theorem IsName.parts (h : IsName name) : (ofText name).parts = [.entry name] := by
  have hdot : name.toList ≠ ['.'] := by
    intro heq
    have hpart := h.part
    rw [heq] at hpart
    cases hpart
  rw [ofText, parts_of_notMem h.slash, if_neg hdot, h.part, Option.toList_some]

/-- To go on from a directory to a name adds one part. -/
theorem parts_join (h : IsName name) :
    (dir.join (ofText name)).parts = dir.parts ++ [.entry name] := by
  obtain ⟨chars⟩ := dir
  have hpart : (partOf? name.toList).toList = [.entry name] := by rw [h.part, Option.toList_some]
  rw [join, h.isAbsolute, if_neg Bool.false_ne_true]
  split
  next hdir =>
    rcases hdir with hnil | hlast
    · obtain rfl : chars = [] := hnil
      exact h.parts
    · -- the directory ends in a slash of its own
      obtain ⟨a, rfl⟩ : ∃ a, chars = a ++ ['/'] := List.getLast?_eq_some_iff.mp hlast
      have htext : a ++ ['/'] ++ name.toList = a ++ '/' :: name.toList :=
        (List.append_cons _ _ _).symm
      rw [ofText, htext, parts_after_slash a h.slash, hpart]
  next hdir =>
    rw [ofText, parts_append_slash (not_or.mp hdir).1 h.slash, hpart]

/-- A path with another name lies in the same directory. -/
theorem parts_withFileName {other : String} (h : p.parts = init ++ [.entry name])
    (hother : IsName other) : (p.withFileName other).parts = init ++ [.entry other] := by
  obtain ⟨q, hq, hparts⟩ := exists_parent? h (by simp)
  rw [withFileName, fileName?_of_parts h]
  show ((p.parent?.getD p).join (ofText other)).parts = _
  rw [hq, Option.getD_some, parts_join hother, hparts]

/-- A path that leads to one entry of a directory. -/
structure LiesIn (p dir : FilePath) (name : String) : Prop where
  parts : p.parts = dir.parts ++ [.entry name]
  fileName : p.fileName? = some name
  parent : ∃ q, p.parent? = some q ∧ q.parts = dir.parts

theorem liesIn_of_parts (h : p.parts = dir.parts ++ [.entry name]) : p.LiesIn dir name where
  parts := h
  fileName := fileName?_of_parts h
  parent := exists_parent? h (by simp)

end FilePath

namespace LockFile

open FilePath

variable {t : String} {c : Char}

/-! ## The characters of a name -/

/-- The characters that file names are made of. -/
def IsPortable (c : Char) : Prop :=
  ('A' ≤ c ∧ c ≤ 'Z') ∨ ('a' ≤ c ∧ c ≤ 'z') ∨ ('0' ≤ c ∧ c ≤ '9') ∨ c = '.' ∨ c = '-' ∨ c = '_'

instance (c : Char) : Decidable (IsPortable c) :=
  inferInstanceAs (Decidable (_ ∨ _ ∨ _ ∨ _ ∨ _ ∨ _))

theorem isPortable_of_isPlain (h : isPlain c = true) : IsPortable c := by
  have hclasses : (decide ('A' ≤ c ∧ c ≤ 'Z') || (decide ('a' ≤ c) && decide (c ≤ 'z')) ||
      (decide ('0' ≤ c) && decide (c ≤ '9')) || c == '.' || c == '-' || c == '_') = true := h
  simp only [Bool.or_eq_true, Bool.and_eq_true, decide_eq_true_eq, beq_iff_eq, or_assoc]
    at hclasses
  exact hclasses

theorem isPortable_of_all {text : String} (hplain : text.toList.all isPlain = true)
    (h : c ∈ text.toList) : IsPortable c :=
  isPortable_of_isPlain (List.all_eq_true.mp hplain c h)

theorem isPortable_of_mem_name (h : c ∈ (name t).toList) : IsPortable c := by
  rw [name, String.toList_append, List.mem_append] at h
  rcases h with h | h
  · rw [sanitize, String.toList_ofList] at h
    obtain ⟨d, -, rfl⟩ := List.mem_map.mp h
    split
    next hplain => exact isPortable_of_isPlain hplain
    next => decide
  · exact isPortable_of_all (by decide) h

theorem isPortable_of_mem_sidecar (h : c ∈ (sidecar (name t)).toList) : IsPortable c := by
  rw [sidecar, String.toList_append, List.mem_append] at h
  rcases h with h | h
  · exact isPortable_of_mem_name h
  · exact isPortable_of_all (by decide) h

section Name

variable {n : String} (hportable : ∀ c ∈ n.toList, IsPortable c)
include hportable

theorem notMem_of_not_isPortable (hc : ¬ IsPortable c) : c ∉ n.toList :=
  fun hmem => hc (hportable c hmem)

/-- A text of such characters that does not end in a dot is a name. -/
theorem isName_of_isPortable (hlast : n.toList.getLast? = some c) (hc : c ≠ '.') : IsName n :=
  isName_of_getLast? (notMem_of_not_isPortable hportable (by decide)) hlast hc

/-- A directory can have an entry of such a name unless it is too long. -/
theorem isEntryName_iff_of_isPortable (hlast : n.toList.getLast? = some c) (hc : c ≠ '.') :
    isEntryName n = true ↔ n.utf8ByteSize ≤ maxNameBytes := by
  have hne : ∀ other : String, other.toList.getLast? ≠ some c → n ≠ other := by
    rintro other hother rfl
    exact hother hlast
  have hslash : '/' ∉ n.toList := notMem_of_not_isPortable hportable (by decide)
  have hnul : '\x00' ∉ n.toList := notMem_of_not_isPortable hportable (by decide)
  have hempty : n ≠ "" := hne _ (by simp)
  have hdot : n ≠ "." := hne _ (by simpa using hc.symm)
  have hdots : n ≠ ".." := hne _ (by simpa using hc.symm)
  simp [isEntryName, hslash, hnul, hempty, hdot, hdots]

end Name

theorem getLast?_name (t : String) : (name t).toList.getLast? = some 'k' := by simp [name]

theorem getLast?_sidecar (n : String) : (sidecar n).toList.getLast? = some 'n' := by simp [sidecar]

theorem isName_name (t : String) : IsName (name t) :=
  isName_of_isPortable (fun _ hc => isPortable_of_mem_name hc) (getLast?_name t) (by decide)

theorem isName_sidecar (t : String) : IsName (sidecar (name t)) :=
  isName_of_isPortable (fun _ hc => isPortable_of_mem_sidecar hc) (getLast?_sidecar _) (by decide)

/-! ## The two files of a target -/

theorem parts_path (dir : FilePath) (t : String) :
    (path dir t).parts = dir.parts ++ [.entry (name t)] := parts_join (isName_name t)

theorem parts_sidecarPath (dir : FilePath) (t : String) :
    (sidecarPath (path dir t)).parts = dir.parts ++ [.entry (sidecar (name t))] := by
  rw [sidecarPath, fileName?_of_parts (parts_path dir t)]
  exact parts_withFileName (parts_path dir t) (isName_sidecar t)

/-- Two targets have the same lock file exactly if the same name is made of them. -/
theorem parts_path_eq_iff (dir : FilePath) (t t' : String) :
    (path dir t).parts = (path dir t').parts ↔ name t = name t' := by
  simp [parts_path]

theorem parts_sidecarPath_eq_iff (dir : FilePath) (t t' : String) :
    (sidecarPath (path dir t)).parts = (sidecarPath (path dir t')).parts ↔ name t = name t' := by
  simp [parts_sidecarPath, sidecar_inj]

theorem parts_sidecarPath_ne (dir : FilePath) (t t' : String) :
    (sidecarPath (path dir t)).parts ≠ (path dir t').parts := by
  simp [parts_sidecarPath, parts_path, sidecar_ne_name]

/-- Whatever a target is called, its lock file is an entry of the lock directory; its name has only
letters, digits, dots, dashes and underscores, ends in `.lock` and is refused by no directory unless
it is too long.  The sidecar is an entry of the same directory.  A sidecar is never a lock file, and
two targets share the one exactly if they share the other. -/
theorem paths_of_target (dir : FilePath) (target : String) :
    (path dir target).LiesIn dir (name target) ∧
      (∀ c ∈ (name target).toList, IsPortable c) ∧
      (∃ stem, name target = stem ++ ".lock") ∧
      (isEntryName (name target) = true ↔ (name target).utf8ByteSize ≤ maxNameBytes) ∧
      (sidecarPath (path dir target)).LiesIn dir (sidecar (name target)) ∧
      ∀ other, (sidecarPath (path dir target)).parts ≠ (path dir other).parts ∧
        ((sidecarPath (path dir target)).parts = (sidecarPath (path dir other)).parts ↔
          (path dir target).parts = (path dir other).parts) := by
  have hportable : ∀ c ∈ (name target).toList, IsPortable c :=
    fun c hc => isPortable_of_mem_name hc
  refine ⟨liesIn_of_parts (parts_path dir target), hportable, ⟨sanitize target, rfl⟩, ?_,
    liesIn_of_parts (parts_sidecarPath dir target), fun other => ?_⟩
  · exact isEntryName_iff_of_isPortable hportable (getLast?_name target) (by decide)
  · refine ⟨parts_sidecarPath_ne dir target other, ?_⟩
    rw [parts_sidecarPath_eq_iff, parts_path_eq_iff]

/-- A target that looks like a way out of the directory. -/
example : (path (.ofText "./locks/.") "/../é").parts =
    [.here, .entry "locks", .entry "_..__.lock"] := by
  decide

end LockFile

end TelemetryGateway
