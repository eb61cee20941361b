import TelemetryGateway.Message.Path

/-!
# The text of a plain path

Nothing in the text of a path is escaped, so not every text stands for one path only.  A path is
*plain* if the marks that end its parts do not occur in them: no slash in the origin, no slash and
no bracket in the names of elements, which are not empty, no equals sign in the names of list keys
and no closing bracket in their values.  A slash in the value of a list key is fine.

The text of a plain path can be read in one way only, and so can any text that begins with it and
goes on with a slash:

* `Path.render_eq_render_iff`: plain paths with the same text have the same origin and elements;
* `Path.exists_chars_append_iff`: the text of one plain path goes on, after a slash, to that of
  another exactly if the elements of the one are the first elements of the other.
-/

namespace TelemetryGateway

/-! ## Plain paths -/

/-- An element whose parts do not contain the marks that end them. -/
structure PathElem.IsPlain (e : PathElem) : Prop where
  exists_name : e.name ≠ ""
  name : ∀ c ∈ e.name.toList, c ≠ '/' ∧ c ≠ '['
  key : ∀ k ∈ e.key.entries, '=' ∉ k.1.toList
  value : ∀ k ∈ e.key.entries, ']' ∉ k.2.toList

/-- A path whose parts do not contain the marks that end them. -/
structure Path.IsPlain (p : Path) : Prop where
  origin : '/' ∉ p.origin.toList
  elem : ∀ e ∈ p.elem, e.IsPlain

instance (e : PathElem) : Decidable e.IsPlain :=
  decidable_of_iff (e.name ≠ "" ∧ ('/' ∉ e.name.toList ∧ '[' ∉ e.name.toList) ∧
      (∀ k ∈ e.key.entries, '=' ∉ k.1.toList) ∧ ∀ k ∈ e.key.entries, ']' ∉ k.2.toList)
    ⟨fun ⟨hname, ⟨hslash, hbracket⟩, hkey, hvalue⟩ =>
        ⟨hname, fun _ hc => ⟨fun h => hslash (h ▸ hc), fun h => hbracket (h ▸ hc)⟩, hkey, hvalue⟩,
      fun ⟨hname, hmarks, hkey, hvalue⟩ =>
        ⟨hname, ⟨fun h => (hmarks _ h).1 rfl, fun h => (hmarks _ h).2 rfl⟩, hkey, hvalue⟩⟩

instance (p : Path) : Decidable p.IsPlain :=
  decidable_of_iff ('/' ∉ p.origin.toList ∧ ∀ e ∈ p.elem, e.IsPlain)
    ⟨fun ⟨horigin, helem⟩ => ⟨horigin, helem⟩, fun ⟨horigin, helem⟩ => ⟨horigin, helem⟩⟩

/-- What is below a plain path at a plain path is plain. -/
theorem Path.IsPlain.join {p suffix : Path} (hp : p.IsPlain) (hsuffix : suffix.IsPlain) :
    (p.join suffix).IsPlain where
  origin := by
    show '/' ∉ (if suffix.origin.isEmpty then p.origin else suffix.origin).toList
    split
    · exact hp.origin
    · exact hsuffix.origin
  elem e he := by
    rcases List.mem_append.mp he with he | he
    · exact hp.elem e he
    · exact hsuffix.elem e he

/-! ## Reading up to a mark -/

/-- Two lists that begin with letters of one kind, and then with none of that kind, agree on where
the kind ends. -/
theorem append_inj_of_kind {α : Type} (kind : α → Bool) {x y r s : List α}
    (hx : ∀ a ∈ x, kind a = true) (hy : ∀ a ∈ y, kind a = true)
    (hr : ∀ a, r.head? = some a → kind a = false) (hs : ∀ a, s.head? = some a → kind a = false)
    (h : x ++ r = y ++ s) : x = y ∧ r = s := by
  have hnone : ∀ t : List α, (∀ a, t.head? = some a → kind a = false) → t.takeWhile kind = [] := by
    intro t ht
    cases t with
    | nil => rfl
    | cons a rest => simp [ht a rfl]
  have hxy : x = y := by
    have htake := congrArg (List.takeWhile kind) h
    rwa [List.takeWhile_append_of_pos hx, List.takeWhile_append_of_pos hy, hnone r hr, hnone s hs,
      List.append_nil, List.append_nil] at htake
  subst hxy
  exact ⟨rfl, List.append_cancel_left h⟩

/-- What stands before the first occurrence of a mark. -/
theorem append_cons_inj {α : Type} [DecidableEq α] {mark : α} {x y r s : List α} (hx : mark ∉ x)
    (hy : mark ∉ y) (h : x ++ mark :: r = y ++ mark :: s) : x = y ∧ r = s := by
  have hkind : ∀ t : List α, mark ∉ t → ∀ a ∈ t, (a != mark) = true := by
    intro t ht a ha
    exact bne_iff_ne.mpr fun heq => ht (heq ▸ ha)
  have hmark : ∀ (t : List α) (a : α), (mark :: t).head? = some a → (a != mark) = false := by
    rintro t a ⟨⟩
    exact bne_self_eq_false mark
  obtain ⟨hxy, hrest⟩ :=
    append_inj_of_kind (· != mark) (hkind x hx) (hkind y hy) (hmark r) (hmark s) h
  exact ⟨hxy, List.tail_eq_of_cons_eq hrest⟩

/-- A text that is over or goes on with a slash: what can follow an element. -/
def AtSlash (r : List Char) : Prop := ∀ c, r.head? = some c → c = '/'

theorem atSlash_nil : AtSlash [] := by
  rintro c ⟨⟩

theorem atSlash_cons (r : List Char) : AtSlash ('/' :: r) := by
  rintro c ⟨⟩
  rfl

/-! ## Elements -/

namespace PathElem

/-- The list keys of a plain element can be read back. -/
theorem flatMap_keyChars_inj {ks ks' : List (String × String)} {r r' : List Char}
    (hkey : ∀ k ∈ ks, '=' ∉ k.1.toList) (hvalue : ∀ k ∈ ks, ']' ∉ k.2.toList)
    (hkey' : ∀ k ∈ ks', '=' ∉ k.1.toList) (hvalue' : ∀ k ∈ ks', ']' ∉ k.2.toList)
    (hr : AtSlash r) (hr' : AtSlash r')
    (h : ks.flatMap keyChars ++ r = ks'.flatMap keyChars ++ r') : ks = ks' ∧ r = r' := by
  induction ks generalizing ks' with
  | nil =>
      cases ks' with
      | nil => exact ⟨rfl, h⟩
      | cons k' rest' =>
          -- the one text is over or goes on with a slash, the other one has a bracket there
          cases hr '[' (by rw [show r = _ from h]; rfl)
  | cons k rest ih =>
      cases ks' with
      | nil => cases hr' '[' (by rw [show r' = _ from h.symm]; rfl)
      | cons k' rest' =>
          obtain ⟨hk, hrest⟩ := List.forall_mem_cons.mp hkey
          obtain ⟨hv, hvrest⟩ := List.forall_mem_cons.mp hvalue
          obtain ⟨hk', hrest'⟩ := List.forall_mem_cons.mp hkey'
          obtain ⟨hv', hvrest'⟩ := List.forall_mem_cons.mp hvalue'
          simp only [List.flatMap_cons, keyChars, List.append_assoc, List.cons_append,
            List.nil_append, List.cons.injEq, true_and] at h
          obtain ⟨hfirst, h⟩ := append_cons_inj hk hk' h
          obtain ⟨hsecond, h⟩ := append_cons_inj hv hv' h
          obtain ⟨htail, hend⟩ := ih hrest hvrest hrest' hvrest' h
          have hsame : k = k' :=
            Prod.ext (String.toList_inj.mp hfirst) (String.toList_inj.mp hsecond)
          exact ⟨by rw [hsame, htail], hend⟩

/-- A plain element can be read back from a text that begins with it. -/
theorem chars_append_inj {e e' : PathElem} {r r' : List Char} (he : e.IsPlain) (he' : e'.IsPlain)
    (hr : AtSlash r) (hr' : AtSlash r') (h : e.chars ++ r = e'.chars ++ r') :
    e = e' ∧ r = r' := by
  have hname : ∀ f : PathElem, f.IsPlain →
      ∀ c ∈ f.name.toList, (c != '/' && c != '[') = true := by
    intro f hf c hc
    simpa using hf.name c hc
  -- after the name comes a list key or what follows the element
  have hend : ∀ (ks : List (String × String)) (s : List Char), AtSlash s →
      ∀ c, (ks.flatMap keyChars ++ s).head? = some c → (c != '/' && c != '[') = false := by
    intro ks s hs c hc
    cases ks with
    | nil => simp [hs c hc]
    | cons k rest =>
        cases hc
        rfl
  rw [chars, chars, List.append_assoc, List.append_assoc] at h
  obtain ⟨hsame, hkeys⟩ := append_inj_of_kind _ (hname e he) (hname e' he')
    (hend e.key.entries r hr) (hend e'.key.entries r' hr') h
  obtain ⟨hentries, hrest⟩ :=
    flatMap_keyChars_inj he.key he.value he'.key he'.value hr hr' hkeys
  refine ⟨?_, hrest⟩
  rcases e with ⟨name, entries, sorted⟩
  rcases e' with ⟨name', entries', sorted'⟩
  cases String.toList_inj.mp hsame
  cases hentries
  rfl

theorem chars_ne_nil {e : PathElem} (he : e.IsPlain) : e.chars ≠ [] := by
  intro hnil
  have hname : e.name.toList = [] := (List.append_eq_nil_iff.mp hnil).1
  exact he.exists_name (String.toList_inj.mp hname)

/-- An element with the slash before it. -/
def slashed (e : PathElem) : List Char := '/' :: e.chars

theorem atSlash_flatMap_slashed (es : List PathElem) : AtSlash (es.flatMap slashed) := by
  cases es with
  | nil => exact atSlash_nil
  | cons e rest => exact atSlash_cons _

/-- Where the texts of two lists of plain elements agree, so do the elements. -/
theorem exists_rest_of_flatMap_slashed {es es' : List PathElem} {r : List Char}
    (hes : ∀ e ∈ es, e.IsPlain) (hes' : ∀ e ∈ es', e.IsPlain) (hr : AtSlash r)
    (h : es.flatMap slashed ++ r = es'.flatMap slashed) :
    ∃ rest, es' = es ++ rest ∧ r = rest.flatMap slashed := by
  induction es generalizing es' with
  | nil => exact ⟨es', rfl, h⟩
  | cons e rest ih =>
      cases es' with
      | nil => cases h
      | cons e' rest' =>
          obtain ⟨he, hrest⟩ := List.forall_mem_cons.mp hes
          obtain ⟨he', hrest'⟩ := List.forall_mem_cons.mp hes'
          simp only [List.flatMap_cons, slashed, List.cons_append, List.append_assoc,
            List.cons.injEq, true_and] at h
          have hslash : AtSlash (rest.flatMap slashed ++ r) := by
            cases rest with
            | nil => exact hr
            | cons f fs => exact atSlash_cons _
          obtain ⟨rfl, htail⟩ :=
            chars_append_inj he he' hslash (atSlash_flatMap_slashed rest') h
          obtain ⟨more, rfl, hmore⟩ := ih hrest hrest' htail
          exact ⟨more, rfl, hmore⟩

end PathElem

/-! ## Paths -/

namespace Path

open PathElem

theorem elemChars_of_ne_nil {es : List PathElem} (h : es ≠ []) :
    elemChars es = es.flatMap slashed := by
  rw [elemChars, if_neg (by simpa using h)]
  rfl

theorem atSlash_elemChars (es : List PathElem) : AtSlash (elemChars es) := by
  cases es with
  | nil => exact atSlash_cons []
  | cons e rest => exact atSlash_cons _

theorem slash_notMem_originChars {origin : String} (h : '/' ∉ origin.toList) :
    '/' ∉ originChars origin := by
  unfold originChars
  split
  · simp
  · simp [h]

/-- The colon is written after every origin but the empty one, which leaves nothing behind. -/
theorem originChars_inj {origin origin' : String} (h : originChars origin = originChars origin') :
    origin = origin' := by
  unfold originChars at h
  split at h
  next hempty =>
    split at h
    next hempty' => rw [String.isEmpty_iff.mp hempty, String.isEmpty_iff.mp hempty']
    next => simp at h
  next =>
    split at h
    next => simp at h
    next => exact String.toList_inj.mp (List.append_cancel_right h)

variable {p q : Path}

/-- The first slash in the text of a plain path is where its elements begin. -/
theorem chars_append_inj {r : List Char} (hp : '/' ∉ p.origin.toList)
    (hq : '/' ∉ q.origin.toList) (h : p.chars ++ r = q.chars) :
    p.origin = q.origin ∧ elemChars p.elem ++ r = elemChars q.elem := by
  have hkind : ∀ origin : String, '/' ∉ origin.toList →
      ∀ c ∈ originChars origin, (c != '/') = true := by
    intro origin horigin c hc
    exact bne_iff_ne.mpr fun heq => slash_notMem_originChars horigin (heq ▸ hc)
  have hslash : ∀ s, AtSlash s → ∀ c, s.head? = some c → (c != '/') = false := by
    intro s hs c hc
    rw [hs c hc]
    rfl
  have hbegin : AtSlash (elemChars p.elem ++ r) := by
    cases p.elem with
    | nil => exact atSlash_cons _
    | cons e rest => exact atSlash_cons _
  rw [chars, chars, List.append_assoc] at h
  obtain ⟨horigin, helem⟩ := append_inj_of_kind (· != '/') (hkind _ hp) (hkind _ hq)
    (hslash _ hbegin) (hslash _ (atSlash_elemChars q.elem)) h
  exact ⟨originChars_inj horigin, helem⟩

/-- The text of a plain path with elements goes on to that of another plain path with elements, or
is that text already, exactly if the elements of the one are the first elements of the other. -/
theorem exists_chars_append_iff (hp : p.IsPlain) (hq : q.IsPlain) (hpe : p.elem ≠ [])
    (hqe : q.elem ≠ []) :
    (∃ r, AtSlash r ∧ p.chars ++ r = q.chars) ↔ p.origin = q.origin ∧ p.elem <+: q.elem := by
  constructor
  · rintro ⟨r, hr, h⟩
    obtain ⟨horigin, helem⟩ := chars_append_inj hp.origin hq.origin h
    rw [elemChars_of_ne_nil hpe, elemChars_of_ne_nil hqe] at helem
    obtain ⟨rest, hrest, -⟩ := exists_rest_of_flatMap_slashed hp.elem hq.elem hr helem
    exact ⟨horigin, rest, hrest.symm⟩
  · rintro ⟨horigin, rest, hrest⟩
    refine ⟨rest.flatMap slashed, atSlash_flatMap_slashed rest, ?_⟩
    rw [chars, chars, elemChars_of_ne_nil hpe, elemChars_of_ne_nil hqe, horigin, ← hrest,
      List.flatMap_append, List.append_assoc]

/-- The slash of a path without elements is not the text of plain elements. -/
theorem elemChars_ne_of_ne_nil (hq : q.IsPlain) (hqe : q.elem ≠ []) : elemChars q.elem ≠ ['/'] := by
  obtain ⟨e, rest, he⟩ := List.exists_cons_of_ne_nil hqe
  have hplain : e.IsPlain := hq.elem e (by rw [he]; exact List.mem_cons_self)
  rw [elemChars_of_ne_nil hqe, he]
  intro h
  simp only [List.flatMap_cons, slashed, List.cons_append, List.cons.injEq, true_and,
    List.append_eq_nil_iff] at h
  exact chars_ne_nil hplain h.1

@[simp] theorem toList_render (p : Path) : p.render.toList = p.chars := String.toList_ofList

/-- Plain paths with the same text have the same origin and the same elements. -/
theorem render_eq_render_iff (hp : p.IsPlain) (hq : q.IsPlain) :
    p.render = q.render ↔ p.origin = q.origin ∧ p.elem = q.elem := by
  constructor
  · intro h
    have hchars : p.chars ++ [] = q.chars := by
      rw [List.append_nil, ← toList_render, ← toList_render, h]
    obtain ⟨horigin, helem⟩ := chars_append_inj hp.origin hq.origin hchars
    refine ⟨horigin, ?_⟩
    rw [List.append_nil] at helem
    by_cases hpe : p.elem = []
    · by_cases hqe : q.elem = []
      · rw [hpe, hqe]
      · rw [hpe] at helem
        exact absurd helem.symm (elemChars_ne_of_ne_nil hq hqe)
    · by_cases hqe : q.elem = []
      · rw [hqe] at helem
        exact absurd helem (elemChars_ne_of_ne_nil hp hpe)
      · rw [elemChars_of_ne_nil hpe, elemChars_of_ne_nil hqe, ← List.append_nil (p.elem.flatMap _)]
          at helem
        obtain ⟨rest, hrest, hnil⟩ :=
          exists_rest_of_flatMap_slashed hp.elem hq.elem atSlash_nil helem
        cases rest with
        | nil => rw [hrest, List.append_nil]
        | cons e es => cases hnil
  · rintro ⟨horigin, helem⟩
    rw [render, render, chars, chars, horigin, helem]

/-- The text of a plain path with elements is not a slash alone. -/
theorem render_ne_slash (hp : p.IsPlain) (hpe : p.elem ≠ []) : p.render ≠ "/" := by
  have hroot : ({} : Path).render = "/" := rfl
  rw [← hroot, Ne, render_eq_render_iff hp ⟨by simp, by simp⟩]
  exact fun h => hpe h.2

end Path

end TelemetryGateway
