import Mathlib.Data.List.Forall2
import Mathlib.Data.List.TakeWhile
import SchemaRelay.Proofs.Text.Split
import SchemaRelay.Proofs.Url.Encode
import SchemaRelay.Url.File

/-!
# Names along file URLs

The path of a file URL tells names (`fileNames?`). A plain reference (`IsPlain`) has no dot segments and no characters
that mean something in a URL, so nothing of it is cleaned away (`clean_plain`), all of it is path, and its segments are
added to those of the directory one by one (`walk_plain`).

So the URL of a plain reference in a directory tells the names of the directory and of the reference
(`fileNames?_ofRelative`).
-/

namespace SchemaRelay.Url

variable {c : Char} {s seg : List Char} {names segs : List (List Char)}

/-! ## Names of a file URL -/

/-- The names along the path of a file URL that has no host, query or fragment: its segments decoded. -/
def fileNames? (uri : String) : Option (List String) :=
  match uri.toList with
  | 'f' :: 'i' :: 'l' :: 'e' :: ':' :: '/' :: '/' :: '/' :: path =>
    if path.any endsPath then none
    else (Text.pieces (· == '/') path).mapM fun seg => String.fromUTF8? (decode seg).toByteArray
  | _ => none

theorem mapM_fromUTF8?_decode {written : List (List Char)} {texts : List String}
    (h : List.Forall₂ (fun seg name => String.fromUTF8? (decode seg).toByteArray = some name) written texts) :
    written.mapM (fun seg => String.fromUTF8? (decode seg).toByteArray) = some texts := by
  induction h with
  | nil => rfl
  | cons hseg _ ih => simp [List.mapM_cons, hseg, ih]

/-- A segment has no slash in it and does not end the path. -/
def IsSegment (seg : List Char) : Prop := ∀ c ∈ seg, c ≠ '/' ∧ endsPath c = false

/-- What is encoded is a segment, if what ends a path is encoded and so is any slash. -/
theorem isSegment_encode {set : Char → Bool} (hquery : set '?' = true) (hfragment : set '#' = true)
    (hslash : '/' ∈ s → set '/' = true) : IsSegment (encode set s) := by
  intro c hc
  have hne : ∀ d : Char, d ≠ '%' → d.isAlphanum = false → (d ∈ s → set d = true) → c ≠ d := by
    rintro d hpercent hletter hd rfl
    exact not_mem_encode hpercent hletter hd hc
  have hcquery : c ≠ '?' := hne '?' (by decide) (by decide) fun _ => hquery
  have hcfragment : c ≠ '#' := hne '#' (by decide) (by decide) fun _ => hfragment
  exact ⟨hne '/' (by decide) (by decide) hslash, by simp [endsPath, hcquery, hcfragment]⟩

/-- The names along a URL are told by its segments. -/
theorem fileNames?_ofSegments {written : List (List Char)} {texts : List String} (hne : written ≠ [])
    (hwritten : ∀ seg ∈ written, IsSegment seg)
    (h : List.Forall₂ (fun seg name => String.fromUTF8? (decode seg).toByteArray = some name) written texts) :
    fileNames? (ofSegments written none none).text = some texts := by
  obtain ⟨first, others, rfl⟩ := List.exists_cons_of_ne_nil hne
  obtain ⟨hfirst, hothers⟩ := List.forall_mem_cons.1 hwritten
  have hchars : (ofSegments (first :: others) none none).text.toList =
      'f' :: 'i' :: 'l' :: 'e' :: ':' :: '/' :: '/' :: '/' :: (first ++ others.flatMap ('/' :: ·)) := by
    simp [text, chars, ofSegments, Path.text, Authority.text, Host.text]
  have hends : (first ++ others.flatMap ('/' :: ·)).any endsPath = false := by
    simp only [List.any_eq_false, List.mem_append, List.mem_flatMap, List.mem_cons, Bool.not_eq_true]
    rintro c (hc | ⟨seg, hseg, rfl | hc⟩)
    · exact (hfirst c hc).2
    · decide
    · exact (hothers seg hseg c hc).2
  have hpieces : Text.pieces (· == '/') (first ++ others.flatMap ('/' :: ·)) = first :: others :=
    Text.pieces_join (by decide) (fun c hc => beq_eq_false_iff_ne.2 (hfirst c hc).1) fun seg hseg c hc =>
      beq_eq_false_iff_ne.2 (hothers seg hseg c hc).1
  unfold fileNames?
  rw [hchars]
  simp only [hends, Bool.false_eq_true, if_false, hpieces]
  exact mapM_fromUTF8?_decode h

/-! ## Plain references -/

/-- A reference that is read as it stands: names between slashes that are no dots, without characters that mean
something in a URL or are not read, and with no control character or space at the end. -/
structure IsPlain (s : List Char) : Prop where
  names : ∀ seg ∈ Text.pieces (· == '/') s, seg ≠ [] ∧ seg ≠ ['.'] ∧ seg ≠ ['.', '.']
  chars : ∀ c ∈ s, c ∉ ['%', '?', '#', '\\', '\t', '\r', '\n']
  last : ∀ c, s.getLast? = some c → 0x20 < c.toNat

theorem plainDots_eq (h : '%' ∉ seg) : plainDots seg = seg := by
  induction seg with
  | nil => rfl
  | cons c seg ih =>
    obtain ⟨hc, hseg⟩ := not_or.1 (mt List.mem_cons.2 h)
    rw [plainDots, ih hseg]
    · intro rest heq
      exact absurd heq.symm hc
    · intro rest heq
      exact absurd heq.symm hc

theorem trimControls_eq {c : Char} (hfirst : s.head? = some c) (hc : 0x20 < c.toNat)
    (hlast : ∀ d, s.getLast? = some d → 0x20 < d.toNat) : trimControls s = s := by
  have hdrop : ∀ {t : List Char} {d : Char}, t.head? = some d → 0x20 < d.toNat →
      t.dropWhile (fun c => decide (c.toNat ≤ 0x20)) = t := by
    intro t d ht hd
    obtain ⟨rest, rfl⟩ := List.head?_eq_some_iff.1 ht
    exact List.dropWhile_cons_of_neg (by simp; omega)
  unfold trimControls
  simp only [hdrop hfirst hc]
  cases hend : s.getLast? with
  | none => simp [List.getLast?_eq_none_iff.1 hend]
  | some d =>
    have hrev : s.reverse.head? = some d := by rw [List.head?_reverse, hend]
    rw [hdrop hrev (hlast d hend), List.reverse_reverse]

theorem dropBreaks_eq (h : ∀ c ∈ s, c ∉ ['\t', '\n', '\r']) : dropBreaks s = s := by
  refine List.filter_eq_self.2 fun c hc => ?_
  have hbreak := h c hc
  simp only [List.mem_cons, List.not_mem_nil, or_false, not_or] at hbreak
  simp [hbreak]

section Plain

variable (hs : IsPlain s)

include hs

theorem IsPlain.ne_nil : s ≠ [] := by
  rintro rfl
  exact (hs.names [] List.mem_cons_self).1 rfl

/-- The characters that a plain reference does not have. -/
theorem IsPlain.ne_of_mem (hc : c ∈ s) :
    c ≠ '%' ∧ c ≠ '?' ∧ c ≠ '#' ∧ c ≠ '\\' ∧ c ≠ '\t' ∧ c ≠ '\r' ∧ c ≠ '\n' := by
  simpa using hs.chars c hc

/-- Nothing of a plain reference is cleaned away. -/
theorem clean_plain : clean ('.' :: '/' :: s) = '.' :: '/' :: s := by
  have hlast : ∀ d, ('.' :: '/' :: s).getLast? = some d → 0x20 < d.toNat := by
    intro d hd
    obtain ⟨c, s', rfl⟩ := List.exists_cons_of_ne_nil hs.ne_nil
    exact hs.last d (by simpa using hd)
  have hbreaks : ∀ c ∈ '.' :: '/' :: s, c ∉ ['\t', '\n', '\r'] := by
    refine List.forall_mem_cons.2 ⟨by decide, List.forall_mem_cons.2 ⟨by decide, fun c hc => ?_⟩⟩
    obtain ⟨-, -, -, -, htab, hreturn, hfeed⟩ := hs.ne_of_mem hc
    simp [htab, hreturn, hfeed]
  rw [clean, trimControls_eq (c := '.') rfl (by decide) hlast, dropBreaks_eq hbreaks]

/-- All of a plain reference is path. -/
theorem endsPath_plain : ∀ c ∈ '.' :: '/' :: s, endsPath c = false := by
  refine List.forall_mem_cons.2 ⟨by decide, List.forall_mem_cons.2 ⟨by decide, fun c hc => ?_⟩⟩
  obtain ⟨-, hquery, hfragment, -⟩ := hs.ne_of_mem hc
  simp [endsPath, hquery, hfragment]

/-- Only slashes separate the names of a plain reference. -/
theorem pieces_plain : Text.pieces PathRules.ofFile.separates s = Text.pieces (· == '/') s := by
  refine Text.pieces_congr fun c hc => ?_
  obtain ⟨-, -, -, hbackslash, -⟩ := hs.ne_of_mem hc
  simp [PathRules.separates, PathRules.ofFile, hbackslash]

/-- The names of a plain reference are no dot segments, however these are written. -/
theorem not_dots_plain (hseg : seg ∈ Text.pieces (· == '/') s) :
    isDoubleDot seg = false ∧ isSingleDot seg = false := by
  have hpercent : '%' ∉ seg := fun hc => (hs.ne_of_mem (Text.of_mem_pieces hseg hc).2).1 rfl
  obtain ⟨-, hsingle, hdouble⟩ := hs.names seg hseg
  simp [isDoubleDot, isSingleDot, plainDots_eq hpercent, hsingle, hdouble]

end Plain

/-- Names that are no dot segments are added to those of the directory one by one. -/
theorem walk_plain (r : PathRules) (hnames : names ≠ []) (hsegs : segs ≠ [])
    (hdots : ∀ seg ∈ segs, isDoubleDot seg = false ∧ isSingleDot seg = false) :
    walk r names segs = names ++ segs.map (encode pathSet) := by
  have hwritten : ∀ {done : List (List Char)} (seg : List Char), done ≠ [] →
      writtenSegment r done seg = encode pathSet seg := by
    intro done seg hdone
    simp [writtenSegment, hdone]
  induction segs generalizing names with
  | nil => exact absurd rfl hsegs
  | cons seg segs ih =>
    obtain ⟨hdouble, hsingle⟩ := hdots seg List.mem_cons_self
    cases segs with
    | nil => simp [walk, hdouble, hsingle, hwritten seg hnames]
    | cons next segs =>
      -- the walk goes on with this name added, so the names are generalised
      have hrest : walk r (names ++ [encode pathSet seg]) (next :: segs) =
          names ++ [encode pathSet seg] ++ (next :: segs).map (encode pathSet) :=
        ih (by simp) (by simp) fun seg' hseg' => hdots seg' (List.mem_cons_of_mem _ hseg')
      simp [walk, hdouble, hsingle, hwritten seg hnames, hrest]

/-- The segments of a plain reference in a directory. -/
theorem resolveSegments_plain (hs : IsPlain s) (hnames : names ≠ []) (hne : ∀ name ∈ names, name ≠ []) :
    resolveSegments .ofFile names ('.' :: '/' :: s) =
      names ++ (Text.pieces (· == '/') s).map (encode pathSet) := by
  obtain ⟨next, segs, hpieces⟩ := Text.exists_pieces (· == '/') s
  have hdot : Text.pieces PathRules.ofFile.separates ('.' :: '/' :: s) = ['.'] :: next :: segs := by
    refine Text.pieces_cons (by decide) ?_
    rw [Text.pieces_cons_cut (by decide), pieces_plain hs, hpieces]
  have hwalk : walk .ofFile names (['.'] :: next :: segs) = names ++ (next :: segs).map (encode pathSet) := by
    have hdouble : isDoubleDot ['.'] = false := by decide
    have hsingle : isSingleDot ['.'] = true := by decide
    -- the dot that the reference starts with leads nowhere
    rw [walk, if_neg (by simp [hdouble]), if_pos hsingle]
    · exact walk_plain .ofFile hnames (by simp) fun seg hseg => not_dots_plain hs (hpieces ▸ hseg)
    · simp
  obtain ⟨first, others, rfl⟩ := List.exists_cons_of_ne_nil hnames
  have hfirst : first ≠ [] := hne first List.mem_cons_self
  rw [resolveSegments, hdot, hwalk, hpieces]
  simp [PathRules.ofFile, dropLeadingEmpty, hfirst]

/-! ## Plain references in directories -/

theorem ofRelative_plain {r : String} (hr : IsPlain r.toList) (hnames : names ≠ []) (hne : ∀ name ∈ names, name ≠ []) :
    ofRelative names ("./" ++ r) =
      ofSegments (names.map (encode nameSet) ++ (Text.pieces (· == '/') r.toList).map (encode pathSet)) none none := by
  have hreference : ("./" ++ r).toList = '.' :: '/' :: r.toList := by
    rw [String.toList_append]
    rfl
  have hpath : ('.' :: '/' :: r.toList).takeWhile (!endsPath ·) = '.' :: '/' :: r.toList :=
    List.takeWhile_eq_self_iff.2 fun c hc => by simp [endsPath_plain hr c hc]
  have hrest : ('.' :: '/' :: r.toList).dropWhile (!endsPath ·) = [] :=
    List.dropWhile_eq_nil_iff.2 fun c hc => by simp [endsPath_plain hr c hc]
  have hencoded : ∀ name ∈ names.map (encode nameSet), name ≠ [] := by
    intro name hname
    obtain ⟨plain, hplain, rfl⟩ := List.mem_map.1 hname
    exact mt encode_eq_nil_iff.1 (hne plain hplain)
  rw [ofRelative, hreference, clean_plain hr]
  simp only [hpath, hrest, queryAndFragment]
  rw [resolveSegments_plain hr (by simpa using hnames) hencoded]

/-- The URL of a plain reference in a directory tells the names of the directory and then those of the reference. -/
theorem fileNames?_ofRelative {r : String} (hr : IsPlain r.toList) (hnames : names ≠ [])
    (hne : ∀ name ∈ names, name ≠ []) :
    fileNames? (ofRelative names ("./" ++ r)).text =
      some (names.map String.ofList ++ (Text.pieces (· == '/') r.toList).map String.ofList) := by
  have hslash : ∀ seg ∈ Text.pieces (· == '/') r.toList, '/' ∉ seg := by
    intro seg hseg hc
    have hcut := (Text.of_mem_pieces hseg hc).1
    simp at hcut
  have hpercent : ∀ seg ∈ Text.pieces (· == '/') r.toList, '%' ∉ seg := by
    intro seg hseg hc
    exact (hr.ne_of_mem (Text.of_mem_pieces hseg hc).2).1 rfl
  rw [ofRelative_plain hr hnames hne]
  refine fileNames?_ofSegments (by simp [hnames]) ?_ ?_
  · intro written hwritten
    rcases List.mem_append.1 hwritten with hwritten | hwritten
    · obtain ⟨name, -, rfl⟩ := List.mem_map.1 hwritten
      exact isSegment_encode (by decide) (by decide) fun _ => by decide
    · obtain ⟨seg, hseg, rfl⟩ := List.mem_map.1 hwritten
      exact isSegment_encode (by decide) (by decide) fun hc => absurd hc (hslash seg hseg)
  · refine List.rel_append ?_ ?_
    · rw [List.forall₂_map_left_iff, List.forall₂_map_right_iff, List.forall₂_same]
      exact fun name _ => fromUTF8?_decode_encode fun _ => by decide
    · rw [List.forall₂_map_left_iff, List.forall₂_map_right_iff, List.forall₂_same]
      exact fun seg hseg => fromUTF8?_decode_encode fun hc => absurd hc (hpercent seg hseg)

end SchemaRelay.Url
