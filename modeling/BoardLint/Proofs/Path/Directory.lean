import BoardLint.Path
import Mathlib.Data.List.DropRight

/-!
# Directories and names

What becomes of the components of a path when it is cut into its directory and its file name, and
when the two are joined again: an entry of a directory is one component more than the directory
(`components_child`), and a path equals the entry that its directory has under its file name
(`same_child_iff`), however the path is written.
-/

namespace BoardLint.Path

/-! ## Pieces -/

theorem pieces_eq_splitOn (cs : List Char) : pieces cs = cs.splitOn '/' := by
  fun_induction pieces cs with
  | case1 => rfl
  | case2 cs ih => simp [List.splitOn, List.splitOnP_cons_eq_if_modifyHead, ih]
  | case3 c cs hc hp => exact absurd hp (pieces_ne_nil cs)
  | case4 c cs hc piece rest hp ih =>
    have hslash : c ≠ '/' := hc
    rw [List.splitOn, List.splitOnP_cons_eq_if_modifyHead, if_neg (by simpa using hslash)]
    rw [hp, List.splitOn] at ih
    rw [← ih]
    rfl

theorem pieces_intercalate {ks : List (List Char)} (hne : ks ≠ []) (h : ∀ k ∈ ks, '/' ∉ k) :
    pieces (['/'].intercalate ks) = ks := by
  rw [pieces_eq_splitOn, List.splitOn_intercalate '/' h hne]

theorem slashless_of_mem_pieces {cs k : List Char} (h : k ∈ pieces cs) : '/' ∉ k := by
  fun_induction pieces cs generalizing k with
  | case1 => simp_all
  | case2 cs ih =>
    rcases List.mem_cons.1 h with rfl | h
    · exact List.not_mem_nil
    · exact ih h
  | case3 c cs hc hp => exact absurd hp (pieces_ne_nil cs)
  | case4 c cs hc piece rest hp ih =>
    rcases List.mem_cons.1 h with rfl | h
    · have := ih (k := piece) (by simp [hp])
      simp_all [eq_comm]
    · exact ih (by simp [hp, h])

/-- A text without slashes behind another one makes its last piece longer. -/
theorem exists_pieces_append (a : List Char) {b : List Char} (hb : '/' ∉ b) :
    ∃ init last, pieces (a ++ b) = init ++ [last ++ b] := by
  fun_induction pieces a with
  | case1 => exact ⟨[], [], by simp [pieces_of_slashless hb]⟩
  | case2 cs ih =>
    obtain ⟨init, last, h⟩ := ih
    exact ⟨[] :: init, last, by simp [pieces, h]⟩
  | case3 c cs hc hp => exact absurd hp (pieces_ne_nil cs)
  | case4 c cs hc piece rest hp ih =>
    obtain ⟨init, last, h⟩ := ih
    cases init with
    | nil => exact ⟨[], c :: last, by simp_all [pieces]⟩
    | cons i init => exact ⟨(c :: i) :: init, last, by simp_all [pieces]⟩

/-! ## What pieces stand for -/

theorem ofPiece?_eq_entry_iff {piece : List Char} {name : FileName} :
    Component.ofPiece? piece = some (.entry name) ↔ piece = name.text.toList := by
  constructor
  · intro h
    unfold Component.ofPiece? at h
    split at h
    · exact absurd h nofun
    · obtain ⟨n, hn, he⟩ := Option.map_eq_some_iff.1 h
      obtain rfl : n = name := by simpa using he
      rw [FileName.ofString?_eq_some_iff.1 hn, String.toList_ofList]
  · rintro rfl
    exact ofPiece?_entry name

theorem ofPiece?_eq_none_iff {piece : List Char} (h : '/' ∉ piece) :
    Component.ofPiece? piece = none ↔ isBlankPiece piece = true := by
  have htext (s : String) : String.ofList piece = s ↔ piece = s.toList := by
    rw [← String.toList_inj, String.toList_ofList]
  unfold Component.ofPiece? FileName.ofString? isBlankPiece
  simp only [htext, ne_eq, String.toList_ofList]
  by_cases hempty : piece = []
  · simp [hempty]
  by_cases hdot : piece = ['.']
  · simp [hdot]
  by_cases hdots : piece = ['.', '.']
  · simp [hdots]
  · simp [hempty, hdot, hdots, h]

theorem dropBlankPieces_concat (ps : List (List Char)) (piece : List Char) :
    dropBlankPieces (ps ++ [piece]) =
      if isBlankPiece piece = true then dropBlankPieces ps else ps ++ [piece] :=
  List.rdropWhile_concat isBlankPiece ps piece

theorem mem_of_mem_dropBlankPieces {ps : List (List Char)} {piece : List Char}
    (h : piece ∈ dropBlankPieces ps) : piece ∈ ps :=
  (List.rdropWhile_prefix isBlankPiece ps).mem h

/-- Pieces at the end that stand for nothing make no component. -/
theorem filterMap_dropBlankPieces {ps : List (List Char)} (h : ∀ piece ∈ ps, '/' ∉ piece) :
    (dropBlankPieces ps).filterMap Component.ofPiece? = ps.filterMap Component.ofPiece? := by
  induction ps using List.reverseRecOn with
  | nil => rfl
  | append_singleton ps piece ih =>
    rw [dropBlankPieces_concat]
    split
    · rename_i hblank
      have hnone := (ofPiece?_eq_none_iff (h piece (by simp))).2 hblank
      rw [ih fun k hk => h k (List.mem_append_left _ hk), List.filterMap_append]
      simp [hnone]
    · rfl

/-- The last piece that stands for something makes the last component. -/
theorem dropBlankPieces_eq_concat {ps : List (List Char)} {x : Component}
    (h : ∀ piece ∈ ps, '/' ∉ piece) (hx : (ps.filterMap Component.ofPiece?).getLast? = some x) :
    ∃ init last, dropBlankPieces ps = init ++ [last] ∧ Component.ofPiece? last = some x ∧
      ps.filterMap Component.ofPiece? = init.filterMap Component.ofPiece? ++ [x] := by
  induction ps using List.reverseRecOn with
  | nil => exact absurd hx nofun
  | append_singleton ps piece ih =>
    rw [dropBlankPieces_concat]
    cases hp : Component.ofPiece? piece with
    | none =>
      rw [if_pos ((ofPiece?_eq_none_iff (h piece (by simp))).1 hp)]
      obtain ⟨init, last, hdrop, hlast, hall⟩ :=
        ih (fun k hk => h k (List.mem_append_left _ hk)) (by simpa [hp] using hx)
      exact ⟨init, last, hdrop, hlast, by simp [hp, hall]⟩
    | some y =>
      have hfull : ¬ isBlankPiece piece = true := fun hblank => by
        rw [(ofPiece?_eq_none_iff (h piece (by simp))).2 hblank] at hp
        exact absurd hp nofun
      obtain rfl : y = x := by simpa [hp] using hx
      rw [if_neg hfull]
      exact ⟨ps, piece, rfl, hp, by simp [hp]⟩

theorem filterMap_pieces_intercalate {ks : List (List Char)} (h : ∀ k ∈ ks, '/' ∉ k) :
    (pieces (['/'].intercalate ks)).filterMap Component.ofPiece? =
      ks.filterMap Component.ofPiece? := by
  cases ks with
  | nil => rfl
  | cons k ks => rw [pieces_intercalate (List.cons_ne_nil k ks) h]

/-! ## Components of joined texts -/

variable {p q : Path} {name : FileName} {cs : List Char}

theorem components_of_root (h : p.text.toList = '/' :: cs) :
    p.components = .root :: (pieces cs).filterMap Component.ofPiece? := by
  simp [components, isAbsolute, h, pieces, Component.ofPiece?, FileName.ofString?]

/-- What stands behind a slash only adds components. -/
theorem components_of_slash (hq : q.text.toList ≠ [])
    (h : p.text.toList = q.text.toList ++ '/' :: cs) :
    p.components = q.components ++ (pieces cs).filterMap Component.ofPiece? := by
  have habsolute : p.isAbsolute = q.isAbsolute := by
    simp [isAbsolute, h, List.head?_append_of_ne_nil _ hq]
  have hhere : p.startsHere = q.startsHere := by
    simp [startsHere, h, pieces_append_slash, List.head?_append_of_ne_nil _ (pieces_ne_nil _)]
  simp [components, habsolute, hhere, h, pieces_append_slash]

theorem components_of_empty (h : p.text.toList = []) : p.components = [] := by
  simp [components, isAbsolute, startsHere, h, pieces, Component.ofPiece?, FileName.ofString?]

theorem filterMap_pieces_name (name : FileName) :
    (pieces name.text.toList).filterMap Component.ofPiece? = [.entry name] := by
  simp [pieces_of_slashless name.slashless]

theorem isAbsolute_name (name : FileName) : (Path.mk name.text).isAbsolute = false := by
  have hhead : name.text.toList.head? ≠ some '/' := fun h =>
    name.slashless (List.mem_of_mem_head? h)
  simpa [isAbsolute] using hhead

theorem components_name (name : FileName) : (Path.mk name.text).components = [.entry name] := by
  have hdot : name.text.toList ≠ ['.'] := fun h =>
    name.ordinary.2.1 (String.toList_inj.1 h)
  have hhere : (Path.mk name.text).startsHere = false := by
    simpa [startsHere, pieces_of_slashless name.slashless] using hdot
  simp [components, isAbsolute_name, hhere, pieces_of_slashless name.slashless]

/-- An entry of a directory is one component more than the directory. -/
theorem components_child (p : Path) (name : FileName) :
    (p.child name).components = p.components ++ [.entry name] := by
  unfold child join
  rw [isAbsolute_name, if_neg (by simp)]
  rcases List.eq_nil_or_concat p.text.toList with hempty | ⟨init, c, hlast⟩
  · have htext : p.text ++ name.text = name.text := by
      rw [String.toList_eq_nil_iff.1 hempty, String.empty_append]
    rw [if_pos (by simp [hempty]), components_of_empty hempty, htext, components_name]
    rfl
  by_cases hc : c = '/'
  · subst hc
    -- the slash at the end of the directory is the one in front of the name
    rw [if_pos (by simp [hlast])]
    by_cases hroot : init = []
    · subst hroot
      have hp : p.text.toList = '/' :: [] := by simp [hlast]
      have hchild : (p.text ++ name.text).toList = '/' :: name.text.toList := by simp [hlast]
      rw [components_of_root hchild, components_of_root hp, filterMap_pieces_name]
      rfl
    · have hinit : (Path.mk (String.ofList init)).text.toList ≠ [] := by simpa using hroot
      have hp : p.text.toList = (String.ofList init).toList ++ '/' :: [] := by simp [hlast]
      have hchild : (p.text ++ name.text).toList =
          (String.ofList init).toList ++ '/' :: name.text.toList := by simp [hlast]
      rw [components_of_slash hinit hchild, components_of_slash hinit hp, filterMap_pieces_name]
      simp [pieces, Component.ofPiece?, FileName.ofString?]
  · rw [if_neg (by simpa [hlast] using hc)]
    have hchild : (p.text ++ "/" ++ name.text).toList =
        p.text.toList ++ '/' :: name.text.toList := by simp
    rw [components_of_slash (q := p) (by simp [hlast]) hchild, filterMap_pieces_name]

/-! ## The directory of a path -/

theorem pieces_cons_of_ne {c : Char} (hc : c ≠ '/') (cs : List Char) :
    ∃ piece rest, pieces cs = piece :: rest ∧ pieces (c :: cs) = (c :: piece) :: rest := by
  obtain ⟨piece, rest, hp⟩ := List.exists_cons_of_ne_nil (pieces_ne_nil cs)
  exact ⟨piece, rest, hp, by simp [pieces, hp]⟩

theorem pieces_eq_nil_cons_cases {ps : List (List Char)} (h : pieces cs = [] :: ps) :
    (cs = [] ∧ ps = []) ∨ ∃ rest, cs = '/' :: rest ∧ ps = pieces rest := by
  cases cs with
  | nil => exact .inl ⟨rfl, by simpa [pieces] using h.symm⟩
  | cons c cs =>
    by_cases hc : c = '/'
    · subst hc
      exact .inr ⟨cs, rfl, by simpa [pieces] using h.symm⟩
    · obtain ⟨piece, rest, -, hp⟩ := pieces_cons_of_ne hc cs
      rw [hp] at h
      exact absurd h (by simp)

theorem startsHere_cases (h : p.startsHere = true) :
    p.text.toList = ['.'] ∨ ∃ rest, p.text.toList = '.' :: '/' :: rest := by
  have hhead : (pieces p.text.toList).head? = some ['.'] := by simpa [startsHere] using h
  generalize p.text.toList = cs at hhead ⊢
  cases cs with
  | nil => exact absurd hhead (by simp [pieces])
  | cons c cs =>
    by_cases hc : c = '/'
    · subst hc
      exact absurd hhead (by simp [pieces])
    · obtain ⟨piece, more, hcs, hp⟩ := pieces_cons_of_ne hc cs
      obtain ⟨rfl, rfl⟩ : c = '.' ∧ piece = [] := by simpa [hp] using hhead
      rcases pieces_eq_nil_cons_cases hcs with ⟨rfl, -⟩ | ⟨rest, rfl, -⟩
      · exact .inl rfl
      · exact .inr ⟨rest, rfl⟩

theorem directory_eq {init : List (List Char)} {last : List Char}
    (h : dropBlankPieces p.body.2 = init ++ [last]) :
    p.directory.text.toList =
      p.body.1.toList ++ ['/'].intercalate (dropBlankPieces init) := by
  have hlist : (init ++ [last]).dropLast = init := List.dropLast_concat
  unfold directory parent?
  dsimp only
  rw [h]
  cases hparts : init ++ [last] with
  | nil => simp at hparts
  | cons part parts =>
    rw [hparts] at hlist
    simp [hlist, String.toList_intercalate]

/-- The pieces that a directory is put together from. -/
structure Kept (parts kept : List (List Char)) : Prop where
  isPrefix : kept <+: parts
  length_lt : kept.length < parts.length
  full_last : ∀ k ∈ kept.getLast?, isBlankPiece k = false

theorem Kept.slashless {parts kept : List (List Char)} (h : Kept parts kept)
    (hparts : ∀ k ∈ parts, '/' ∉ k) : ∀ k ∈ kept, '/' ∉ k :=
  fun k hk => hparts k (h.isPrefix.mem hk)

theorem kept_dropBlankPieces {parts init : List (List Char)} {last : List Char}
    (h : dropBlankPieces parts = init ++ [last]) : Kept parts (dropBlankPieces init) := by
  have hinit : init ++ [last] <+: parts := h ▸ List.rdropWhile_prefix isBlankPiece parts
  have hkept : dropBlankPieces init <+: init := List.rdropWhile_prefix isBlankPiece init
  refine ⟨hkept.trans ((List.prefix_append init [last]).trans hinit), ?_, fun k hk => ?_⟩
  · have h₁ := hinit.length_le
    have h₂ := hkept.length_le
    rw [List.length_append, List.length_singleton] at h₁
    omega
  · have hne : List.rdropWhile isBlankPiece init ≠ [] := by
      intro hnil
      rw [show dropBlankPieces init = [] from hnil] at hk
      exact absurd hk nofun
    have hfull := List.rdropWhile_last_not isBlankPiece init hne
    have hk' : (List.rdropWhile isBlankPiece init).getLast hne = k :=
      List.getLast_of_getLast?_eq_some hk
    rw [hk'] at hfull
    simpa using hfull

/-- The directory of a path is put together from the pieces in front of its file name. -/
theorem exists_kept {start : String} {parts : List (List Char)}
    (hbody : p.body = (start, parts)) (hparts : ∀ k ∈ parts, '/' ∉ k)
    (hlast : (parts.filterMap Component.ofPiece?).getLast? = some (.entry name)) :
    ∃ kept, Kept parts kept ∧
      p.directory.text.toList = start.toList ++ ['/'].intercalate kept ∧
      parts.filterMap Component.ofPiece? =
        kept.filterMap Component.ofPiece? ++ [.entry name] := by
  obtain ⟨init, last, hdrop, -, hall⟩ := dropBlankPieces_eq_concat hparts hlast
  have hinit : ∀ k ∈ init, '/' ∉ k := fun k hk =>
    hparts k (mem_of_mem_dropBlankPieces (by rw [hdrop]; exact List.mem_append_left _ hk))
  refine ⟨dropBlankPieces init, kept_dropBlankPieces hdrop, ?_, ?_⟩
  · have hdrop' : dropBlankPieces p.body.2 = init ++ [last] := by rw [hbody, hdrop]
    rw [directory_eq hdrop', hbody]
  · rw [hall, filterMap_dropBlankPieces hinit]

theorem fileName?_eq_some_iff :
    p.fileName? = some name ↔ p.components.getLast? = some (.entry name) := by
  unfold fileName?
  split
  · rename_i n hn
    simp [hn]
  · rename_i hn
    simp only [reduceCtorEq, false_iff]
    exact hn name

/-- A path that ends in a text without slashes, which is longer than a dot, has a file name that
ends in this text. -/
theorem exists_append_of_fileName? {a b : List Char} (htext : p.text.toList = a ++ b)
    (hb : '/' ∉ b) (hlength : 2 ≤ b.length) (h : p.fileName? = some name) :
    ∃ start, name.text.toList = start ++ b := by
  obtain ⟨init, last, hpieces⟩ := exists_pieces_append a hb
  have hmem : last ++ b ∈ pieces (a ++ b) := by simp [hpieces]
  have hslash : '/' ∉ last ++ b := slashless_of_mem_pieces hmem
  have hfull : Component.ofPiece? (last ++ b) ≠ none := by
    rw [ne_eq, ofPiece?_eq_none_iff hslash]
    intro hblank
    have hshort : (last ++ b).length ≤ 1 := by
      rcases Bool.or_eq_true_iff.1 hblank with hempty | hdot
      · simp_all
      · simp [beq_iff_eq.1 hdot]
    rw [List.length_append] at hshort
    omega
  obtain ⟨x, hx⟩ := Option.ne_none_iff_exists'.1 hfull
  have hlast : p.components.getLast? = some x := by
    simp [components, htext, hpieces, hx]
  obtain rfl : x = .entry name := Option.some.inj (hlast.symm.trans (fileName?_eq_some_iff.1 h))
  exact ⟨last, (ofPiece?_eq_entry_iff.1 hx).symm⟩

theorem getLast?_of_cons {α : Type} {x y : α} {l : List α} (h : (x :: l).getLast? = some y)
    (hne : x ≠ y) : l.getLast? = some y := by
  cases l with
  | nil => exact absurd (by simpa using h) hne
  | cons => simpa using h

theorem components_directory_of_root (hcs : p.text.toList = '/' :: cs)
    (h : p.fileName? = some name) : p.directory.components ++ [.entry name] = p.components := by
  have hp := components_of_root hcs
  have hlast : ((pieces cs).filterMap Component.ofPiece?).getLast? = some (.entry name) := by
    rw [fileName?_eq_some_iff, hp] at h
    exact getLast?_of_cons h nofun
  have hbody : p.body = ("/", pieces cs) := by simp [body, isAbsolute, hcs]
  obtain ⟨kept, hkept, htext, hall⟩ := exists_kept hbody (fun _ => slashless_of_mem_pieces) hlast
  have hslash := hkept.slashless fun _ => slashless_of_mem_pieces
  rw [components_of_root (p := p.directory) (by simpa using htext),
    filterMap_pieces_intercalate hslash, hp, hall, List.cons_append]

theorem components_directory_of_here (hcs : p.text.toList = '.' :: '/' :: cs)
    (h : p.fileName? = some name) : p.directory.components ++ [.entry name] = p.components := by
  have hdot : (Path.mk ".").components = [.current] := by decide
  have hp : p.components = .current :: (pieces cs).filterMap Component.ofPiece? := by
    rw [components_of_slash (q := ⟨"."⟩) (by simp) (by simpa using hcs), hdot]
    rfl
  have hblank : ([] :: pieces cs).filterMap Component.ofPiece? =
      (pieces cs).filterMap Component.ofPiece? := rfl
  have hparts : ∀ k ∈ [] :: pieces cs, '/' ∉ k := by
    simpa using fun _ => slashless_of_mem_pieces
  have hlast : (([] :: pieces cs).filterMap Component.ofPiece?).getLast? =
      some (.entry name) := by
    rw [fileName?_eq_some_iff, hp] at h
    exact getLast?_of_cons h nofun
  have hbody : p.body = (".", [] :: pieces cs) := by
    simp [body, isAbsolute, startsHere, hcs, pieces]
  obtain ⟨kept, hkept, htext, hall⟩ := exists_kept hbody hparts hlast
  rw [hp, ← hblank, hall]
  cases kept with
  | nil =>
    have htext' : p.directory.text = "." := String.toList_inj.1 (by simpa using htext)
    have hd : p.directory = ⟨"."⟩ := congrArg Path.mk htext'
    rw [hd, hdot]
    rfl
  | cons k ks =>
    -- the first piece that is kept is the empty one in front of the slash
    obtain ⟨rfl, hks⟩ : k = [] ∧ ks <+: pieces cs := List.cons_prefix_cons.1 hkept.isPrefix
    have hne : ks ≠ [] := by
      rintro rfl
      exact absurd (hkept.full_last [] rfl) (by simp [isBlankPiece])
    have hslash : ∀ k ∈ ks, '/' ∉ k := fun k hk => slashless_of_mem_pieces (hks.mem hk)
    rw [List.intercalate_cons_of_ne_nil hne] at htext
    rw [components_of_slash (p := p.directory) (q := ⟨"."⟩) (by simp) (by simpa using htext),
      filterMap_pieces_intercalate hslash, hdot]
    rfl

/-- A relative path without a dot at its start has such a directory. -/
theorem components_directory_of_relative (habsolute : p.isAbsolute = false)
    (hhere : p.startsHere = false) (h : p.fileName? = some name) :
    p.directory.components ++ [.entry name] = p.components := by
  have hp : p.components = (pieces p.text.toList).filterMap Component.ofPiece? := by
    simp [components, habsolute, hhere]
  have hlast := fileName?_eq_some_iff.1 h
  rw [hp] at hlast
  have hbody : p.body = ("", pieces p.text.toList) := by simp [body, habsolute, hhere]
  obtain ⟨kept, hkept, htext, hall⟩ := exists_kept hbody (fun _ => slashless_of_mem_pieces) hlast
  rw [hp, hall]
  cases kept with
  | nil => rw [components_of_empty (p := p.directory) (by simpa using htext), List.filterMap_nil]
  | cons k ks =>
    have hpieces : pieces p.directory.text.toList = k :: ks := by
      rw [htext]
      exact pieces_intercalate (List.cons_ne_nil k ks)
        (hkept.slashless fun _ => slashless_of_mem_pieces)
    obtain ⟨more, hmore⟩ := hkept.isPrefix
    have hhere' : p.directory.startsHere = false := by
      rw [startsHere, ← hmore] at hhere
      rw [startsHere, hpieces]
      exact hhere
    have habsolute' : p.directory.isAbsolute = false := by
      rw [← Bool.not_eq_true]
      intro hroot
      obtain ⟨rest, hrest⟩ : ∃ rest, p.directory.text.toList = '/' :: rest := by
        simpa [isAbsolute, List.head?_eq_some_iff] using hroot
      obtain ⟨rfl, rfl⟩ : [] = k ∧ pieces rest = ks := by
        simpa [hrest, pieces] using hpieces
      rcases pieces_eq_nil_cons_cases hmore.symm with ⟨-, hnil⟩ | ⟨cs, hcs, -⟩
      · exact pieces_ne_nil rest (List.append_eq_nil_iff.1 hnil).1
      · simp [isAbsolute, hcs] at habsolute
    simp [components, habsolute', hhere', hpieces]

/-- A path has the components of its directory, and the one of its file name. -/
theorem components_directory (h : p.fileName? = some name) :
    p.directory.components ++ [.entry name] = p.components := by
  cases habsolute : p.isAbsolute with
  | true =>
    obtain ⟨cs, hcs⟩ : ∃ cs, p.text.toList = '/' :: cs := by
      simpa [isAbsolute, List.head?_eq_some_iff] using habsolute
    exact components_directory_of_root hcs h
  | false =>
    cases hhere : p.startsHere with
    | false => exact components_directory_of_relative habsolute hhere h
    | true =>
      rcases startsHere_cases hhere with hdot | ⟨cs, hcs⟩
      · have hp : p = ⟨"."⟩ := congrArg Path.mk (String.toList_inj.1 (by simpa using hdot))
        have hnone : (Path.mk ".").fileName? = none := by decide
        rw [hp, hnone] at h
        exact absurd h.symm (Option.some_ne_none name)
      · exact components_directory_of_here hcs h

/-! ## Equal paths -/

theorem fileName?_congr (h : p.same q = true) : p.fileName? = q.fileName? := by
  rw [fileName?, fileName?, same_iff.1 h]

theorem same_trans {r : Path} (hpq : p.same q = true) (hqr : q.same r = true) :
    p.same r = true :=
  same_iff.2 ((same_iff.1 hpq).trans (same_iff.1 hqr))

theorem fileName?_of_same_child (h : p.same (q.child name) = true) :
    p.fileName? = some name := by
  rw [fileName?_congr h, fileName?_child]

/-- However a path is written, it equals the entry of its directory that has its file name. -/
theorem same_child_iff :
    p.same (p.directory.child name) = true ↔ p.fileName? = some name := by
  constructor
  · exact fileName?_of_same_child
  · intro h
    rw [same_iff, components_child, components_directory h]

end BoardLint.Path
