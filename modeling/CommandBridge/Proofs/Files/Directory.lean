import CommandBridge.Files.Tree
import Mathlib.Data.List.Nodup
import Mathlib.Tactic.Common

/-!
# CommandBridge.Proofs.Files.Directory

Files in a directory.  A path that leads to a directory leads to whatever is in it, by its name
(`resolve_child`), so reading and removing a file come down to the entry under its normalized path
(`read_child`, `remove_child`, `remove_child_of_none`).  Where a file can be written or renamed is
said by `write_concat_iff` and `rename_concat_iff`.  A way stays as long as the directories do
(`follow_mono`), so it stays when files come and go.

The names in a directory are listed in code point order, each once (`names_spec`).
-/

namespace CommandBridge

namespace Path

/-! ## Names -/

/-- A name that an entry of a directory can have. -/
structure IsName (n : String) : Prop where
  ne_empty : n ≠ ""
  ne_dot : n ≠ "."
  ne_dots : n ≠ ".."
  noSlash : '/' ∉ n.toList
  short : n.utf8ByteSize ≤ FileTree.maxNameBytes

/-- A text without slashes is one part of a path. -/
theorem child_of_noSlash {n : String} (hempty : n ≠ "") (hdot : n ≠ ".") (hslash : '/' ∉ n.toList)
    (p : Path) : p.child n = ⟨p.parts ++ [n]⟩ := by
  have hsplit : split n.toList = [n.toList] := List.splitOn_eq_singleton hslash
  have hparts : (ofString n).parts = [n] := by
    simp [ofString, hsplit, hempty, hdot]
  rw [child, hparts]

theorem child_of_isName {n : String} (h : IsName n) (p : Path) : p.child n = ⟨p.parts ++ [n]⟩ :=
  child_of_noSlash h.ne_empty h.ne_dot h.noSlash p

/-- The last suffix of a name with a text before it can be taken away. -/
theorem stemOf_append {t : String} (ht : t ≠ "") : stemOf (t ++ ".json") = t := by
  have htext : t.toList ≠ [] := fun h => ht (String.toList_inj.mp h)
  have hlength : 0 < t.toList.length := List.length_pos_iff.mpr htext
  have hsuffix : (".json".toList.reverse ++ t.toList.reverse).takeWhile (· ≠ '.') =
      "nosj".toList := by
    simp
  have hstart : suffixStart? (t ++ ".json").toList = some t.toList.length := by
    rw [suffixStart?, String.toList_append, List.reverse_append, hsuffix]
    have hfour : "nosj".toList.length = 4 := rfl
    have hfive : ".json".toList.length = 5 := rfl
    simp only [List.length_append, hfour, hfive]
    rw [if_neg (by omega)]
    congr 1
  rw [stemOf, hstart, String.toList_append]
  dsimp only
  rw [List.take_left, String.ofList_toList]

/-! ## Normalized paths -/

/-- A path whose every `..` stands at its start. -/
def IsNormal (p : Path) : Prop := p.parts.foldl normalize.step [] = p.parts.reverse

theorem isNormal_nil : IsNormal ⟨[]⟩ := rfl

/-- Adding a part to a normalized path gives one again. -/
theorem foldl_step_reverse {before : List String}
    (h : before.reverse.foldl normalize.step [] = before) (part : String) :
    (normalize.step before part).reverse.foldl normalize.step [] = normalize.step before part := by
  have hadd : ∀ x, (before.reverse ++ [x]).foldl normalize.step [] = normalize.step before x := by
    intro x
    rw [List.foldl_append, h]
    rfl
  by_cases hpart : part = ".."
  · subst hpart
    cases before with
    | nil => rfl
    | cons last rest =>
        by_cases hlast : last = ".."
        · subst hlast
          have hstep : normalize.step (".." :: rest) ".." = ".." :: ".." :: rest := rfl
          rw [hstep, List.reverse_cons, hadd ".."]
          rfl
        · -- the part before is taken back, and what is left was normalized
          have hstep : normalize.step (last :: rest) ".." = rest := by
            rw [normalize.step]
            exact hlast
          have hplain : ∀ acc, normalize.step acc last = last :: acc := by
            intro acc
            rw [normalize.step.eq_def]
            split
            · exact absurd rfl hlast
            · rfl
          rw [List.reverse_cons, List.foldl_append] at h
          have hrest := (hplain _).symm.trans h
          rw [hstep]
          exact (List.cons.inj hrest).2
  · have hplain : normalize.step before part = part :: before := by
      rw [normalize.step.eq_def]
      split
      · exact absurd rfl hpart
      · rfl
    rw [hplain, List.reverse_cons, hadd, hplain]

theorem isNormal_normalize (p : Path) : IsNormal p.normalize := by
  have hall : ∀ (parts before : List String), before.reverse.foldl normalize.step [] = before →
      (parts.foldl normalize.step before).reverse.foldl normalize.step [] =
        parts.foldl normalize.step before := by
    intro parts
    induction parts with
    | nil => exact fun _ h => h
    | cons part parts ih => exact fun before h => ih _ (foldl_step_reverse h part)
  rw [IsNormal, normalize, List.reverse_reverse]
  exact hall p.parts [] rfl

/-- A name extends a normalized path by itself. -/
theorem normalize_concat {p : Path} (hp : IsNormal p) {n : String} (hn : n ≠ "..") :
    (Path.mk (p.parts ++ [n])).normalize = ⟨p.parts ++ [n]⟩ := by
  have hplain : ∀ before, normalize.step before n = n :: before := by
    intro before
    rw [normalize.step.eq_def]
    split
    · exact absurd rfl hn
    · rfl
  rw [normalize, List.foldl_append, hp]
  simp only [List.foldl_cons, List.foldl_nil, hplain, List.reverse_cons, List.reverse_reverse]

end Path

namespace FileTree

open CommandBridge.Path

variable {t : FileTree} {p d q : Path} {n : String}

/-! ## Entries -/

theorem entry_of_ne_nil (t : FileTree) (hp : p.parts ≠ []) :
    t.entry? p = (t.entries.find? fun e => e.1 = p).map Prod.snd :=
  if_neg (by simpa using hp)

theorem entry_erase (t : FileTree) (q p : Path) (hp : p.parts ≠ []) :
    FileTree.entry? (t.erase q) p = if p = q then none else t.entry? p := by
  rw [entry_of_ne_nil _ hp, entry_of_ne_nil _ hp, erase]
  split
  · next heq =>
    subst heq
    rw [Option.map_eq_none_iff, List.find?_eq_none]
    intro x hx
    have hne := (List.mem_filter.mp hx).2
    simpa using hne
  · next hne =>
    rw [List.find?_filter]
    congr 2
    funext x
    by_cases hx : x.1 = p
    · simp [hx, hne]
    · simp [hx]

theorem entry_set (t : FileTree) (q p : Path) (e : Entry) (hp : p.parts ≠ []) :
    FileTree.entry? (t.set q e) p = if p = q then some e else t.entry? p := by
  have hcons : (t.set q e).entries = (q, e) :: (t.erase q).entries := rfl
  rw [entry_of_ne_nil _ hp, hcons, List.find?_cons]
  split
  · next heq => rw [if_pos (of_decide_eq_true heq).symm]; rfl
  · next hne =>
    have hother : ¬ p = q := fun heq => of_decide_eq_false hne heq.symm
    rw [← entry_of_ne_nil _ hp, entry_erase t q p hp, if_neg hother, if_neg hother]

/-- Nothing is removed from where nothing is. -/
theorem erase_of_none (hp : p.parts ≠ []) (hnone : t.entry? p = none) : t.erase p = t := by
  rw [entry_of_ne_nil _ hp, Option.map_eq_none_iff, List.find?_eq_none] at hnone
  have hfilter : t.entries.filter (fun x => x.1 ≠ p) = t.entries := by
    rw [List.filter_eq_self]
    intro x hx
    simpa using hnone x hx
  rw [erase, hfilter]

theorem entry_eq_some_iff (hunique : (t.entries.map Prod.fst).Nodup) (hp : p.parts ≠ [])
    {e : Entry} : t.entry? p = some e ↔ (p, e) ∈ t.entries := by
  rw [entry_of_ne_nil _ hp, Option.map_eq_some_iff]
  constructor
  · rintro ⟨x, hx, rfl⟩
    have hpath : x.1 = p := by simpa using List.find?_some hx
    exact hpath ▸ List.mem_of_find?_eq_some hx
  · intro hmem
    obtain ⟨x, hx⟩ : ∃ x, t.entries.find? (fun x => decide (x.1 = p)) = some x := by
      rw [← Option.isSome_iff_exists, List.find?_isSome]
      exact ⟨_, hmem, by simp⟩
    have hpath : x.1 = p := by simpa using List.find?_some hx
    have hsame : x = (p, e) :=
      List.inj_on_of_nodup_map hunique (List.mem_of_find?_eq_some hx) hmem hpath
    exact ⟨x, hx, by rw [hsame]⟩

/-- Removing a file leaves the directories. -/
theorem directory_erase {bytes : List UInt8} (hfile : t.entry? q = some (.file bytes))
    (hp : t.entry? p = some .directory) : FileTree.entry? (t.erase q) p = some .directory := by
  by_cases hempty : p.parts = []
  · simp [ entry?, hempty]
  · have hne : p ≠ q := by
      rintro rfl
      rw [hp] at hfile
      exact absurd hfile (by simp)
    rw [entry_erase t q p hempty, if_neg hne, hp]

/-! ## Following a path -/

/-- A way that does not end where it begins leads to a normalized path. -/
theorem isNormal_of_follow {done : Path} {parts : List String} (hparts : parts ≠ [])
    (hd : t.follow done parts = .ok d) : d.IsNormal := by
  induction parts generalizing done with
  | nil => exact absurd rfl hparts
  | cons part rest ih =>
      rw [follow] at hd
      split at hd
      · exact absurd hd (by simp)
      · dsimp only at hd
        split at hd
        · rw [← Except.ok.inj hd]
          exact isNormal_normalize _
        · next hrest =>
          split at hd
          · exact ih (by simpa using hrest) hd
          · exact absurd hd (by simp)
          · exact absurd hd (by simp)

/-- A way goes on by one part from a directory, if the part is not too long. -/
theorem follow_concat_iff {done r : Path} {parts : List String} (hparts : parts ≠ []) :
    t.follow done (parts ++ [n]) = .ok r ↔
      ∃ d, t.follow done parts = .ok d ∧ t.entry? d = some .directory ∧
        n.utf8ByteSize ≤ maxNameBytes ∧ (Path.mk (d.parts ++ [n])).normalize = r := by
  induction parts generalizing done with
  | nil => exact absurd rfl hparts
  | cons part rest ih =>
      rw [List.cons_append, follow, follow]
      split
      · simp
      · have hgoes : (rest ++ [n]).isEmpty = false := by simp
        dsimp only
        rw [hgoes, if_neg Bool.false_ne_true]
        cases rest with
        | nil =>
            rw [List.isEmpty_nil, if_pos rfl]
            cases hhere : t.entry? (Path.mk (done.parts ++ [part])).normalize with
            | none => simp [hhere]
            | some e =>
                cases e with
                | file bytes => simp [hhere]
                | directory =>
                    by_cases hlong : maxNameBytes < n.utf8ByteSize
                    · simp [follow, hlong, Nat.not_le.mpr hlong]
                    · simp [follow, hlong, hhere, Nat.not_lt.mp hlong]
        | cons next rest =>
            rw [List.isEmpty_cons, if_neg Bool.false_ne_true]
            cases t.entry? (Path.mk (done.parts ++ [part])).normalize with
            | none => simp
            | some e =>
                cases e with
                | file bytes => simp
                | directory => exact ih (by simp)

/-- A way to a directory goes on to an entry of it. -/
theorem follow_concat {done : Path} {parts : List String} (hparts : parts ≠ [])
    (hd : t.follow done parts = .ok d) (hdir : t.entry? d = some .directory)
    (hn : IsName n) : t.follow done (parts ++ [n]) = .ok ⟨d.parts ++ [n]⟩ :=
  (follow_concat_iff hparts).mpr
    ⟨d, hd, hdir, hn.short, normalize_concat (isNormal_of_follow hparts hd) hn.ne_dots⟩

/-- A way stays as long as all directories do. -/
theorem follow_mono {t' : FileTree} {done : Path} {parts : List String}
    (hstay : ∀ x, t.entry? x = some .directory → t'.entry? x = some .directory)
    (hd : t.follow done parts = .ok d) : t'.follow done parts = .ok d := by
  induction parts generalizing done with
  | nil => exact hd
  | cons part rest ih =>
      rw [follow] at hd ⊢
      split at hd
      · exact absurd hd (by simp)
      · next hpart =>
        rw [if_neg hpart]
        dsimp only at hd ⊢
        split at hd
        · next hrest => rw [if_pos hrest, hd]
        · next hrest =>
          rw [if_neg hrest]
          split at hd
          · next hhere =>
            rw [hstay _ hhere]
            exact ih hd
          · exact absurd hd (by simp)
          · exact absurd hd (by simp)

/-- A path that leads to a directory. -/
structure LeadsTo (t : FileTree) (p d : Path) : Prop where
  way : t.resolve p = .ok d
  directory : t.entry? d = some .directory
  parts : p.parts ≠ []

/-- A path to a directory leads on to what is in it. -/
theorem LeadsTo.resolve_child (h : t.LeadsTo p d) (hn : IsName n) :
    t.resolve (p.child n) = .ok ⟨d.parts ++ [n]⟩ := by
  rw [child_of_isName hn]
  exact follow_concat h.parts h.way h.directory hn

/-- A path to a directory stays as long as all directories do. -/
theorem LeadsTo.mono {t' : FileTree} (h : t.LeadsTo p d)
    (hstay : ∀ x, t.entry? x = some .directory → t'.entry? x = some .directory) : t'.LeadsTo p d :=
  ⟨follow_mono hstay h.way, hstay d h.directory, h.parts⟩

/-- A path leads to one directory. -/
theorem LeadsTo.unique {d' : Path} (h : t.LeadsTo p d) (h' : t.LeadsTo p d') : d = d' :=
  Except.ok.inj (h.way.symm.trans h'.way)

/-- A path and one more part lead to what is in the directory that the path leads to. -/
theorem resolve_concat_iff {r : Path} (hp : p.parts ≠ []) (hn : n ≠ "..") :
    t.resolve ⟨p.parts ++ [n]⟩ = .ok r ↔
      ∃ d, t.LeadsTo p d ∧ n.utf8ByteSize ≤ maxNameBytes ∧ r = ⟨d.parts ++ [n]⟩ := by
  rw [resolve, follow_concat_iff hp]
  refine exists_congr fun d => ⟨?_, ?_⟩
  · rintro ⟨hway, hdir, hshort, rfl⟩
    exact ⟨⟨hway, hdir, hp⟩, hshort, normalize_concat (isNormal_of_follow hp hway) hn⟩
  · rintro ⟨hd, hshort, rfl⟩
    exact ⟨hd.way, hd.directory, hshort, normalize_concat (isNormal_of_follow hp hd.way) hn⟩

/-- A path to a directory is there when something else was removed. -/
theorem LeadsTo.erase (h : t.LeadsTo p d) (hq : q.parts ≠ [])
    (hother : t.entry? q ≠ some .directory) : (t.erase q).LeadsTo p d := by
  cases hentry : t.entry? q with
  | none => rwa [erase_of_none hq hentry]
  | some e =>
      cases e with
      | directory => exact absurd hentry hother
      | file bytes => exact h.mono fun _ => directory_erase hentry

/-- A directory that is reached by its name has that name. -/
theorem LeadsTo.parts_of_child (h : t.LeadsTo (p.child n) d) (hn : IsName n) :
    ∃ base, d.parts = base ++ [n] := by
  have hway := h.way
  rw [child_of_isName hn, resolve] at hway
  dsimp only at hway
  suffices hall : ∀ (parts : List String) (done : Path), done.IsNormal →
      t.follow done (parts ++ [n]) = .ok d → ∃ base, d.parts = base ++ [n] from
    hall p.parts ⟨[]⟩ isNormal_nil hway
  intro parts
  induction parts with
  | nil =>
      intro done hdone hfollow
      rw [List.nil_append, follow] at hfollow
      split at hfollow
      · exact absurd hfollow (by simp)
      · dsimp only at hfollow
        rw [List.isEmpty_nil, if_pos rfl, normalize_concat hdone hn.ne_dots] at hfollow
        rw [← Except.ok.inj hfollow]
        exact ⟨done.parts, rfl⟩
  | cons part rest ih =>
      intro done hdone hfollow
      rw [List.cons_append, follow] at hfollow
      split at hfollow
      · exact absurd hfollow (by simp)
      · dsimp only at hfollow
        have hrest : (rest ++ [n]).isEmpty = false := by simp
        rw [hrest] at hfollow
        simp only [Bool.false_eq_true, if_false] at hfollow
        split at hfollow
        · exact ih _ (isNormal_normalize _) hfollow
        · exact absurd hfollow (by simp)
        · exact absurd hfollow (by simp)

/-! ## Files -/

theorem LeadsTo.read_child (h : t.LeadsTo p d) (hn : IsName n) {bytes : List UInt8}
    (hfile : t.entry? ⟨d.parts ++ [n]⟩ = some (.file bytes)) : t.read (p.child n) = .ok bytes := by
  rw [read, h.resolve_child hn]
  dsimp only
  rw [hfile]

theorem LeadsTo.remove_child (h : t.LeadsTo p d) (hn : IsName n) {bytes : List UInt8}
    (hfile : t.entry? ⟨d.parts ++ [n]⟩ = some (.file bytes)) :
    t.remove (p.child n) = .ok (t.erase ⟨d.parts ++ [n]⟩) := by
  rw [remove, h.resolve_child hn]
  dsimp only
  rw [hfile]

theorem LeadsTo.remove_child_of_directory (h : t.LeadsTo p d) (hn : IsName n)
    (hentry : t.entry? ⟨d.parts ++ [n]⟩ = some .directory) :
    t.remove (p.child n) = .error (FileError.isDirectory.at (p.child n)) := by
  rw [remove, h.resolve_child hn]
  dsimp only
  rw [hentry]

theorem LeadsTo.remove_child_of_none (h : t.LeadsTo p d) (hn : IsName n)
    (hnone : t.entry? ⟨d.parts ++ [n]⟩ = none) :
    t.remove (p.child n) = .error (FileError.notFound.at (p.child n)) := by
  rw [remove, h.resolve_child hn]
  dsimp only
  rw [hnone]

/-- A file can be written in a directory unless a directory has its name. -/
theorem write_concat_iff {t' : FileTree} {bytes : List UInt8} (hp : p.parts ≠ []) (hn : n ≠ "..") :
    t.write ⟨p.parts ++ [n]⟩ bytes = .ok t' ↔
      ∃ d, t.LeadsTo p d ∧ n.utf8ByteSize ≤ maxNameBytes ∧
        t.entry? ⟨d.parts ++ [n]⟩ ≠ some .directory ∧
        t.set ⟨d.parts ++ [n]⟩ (.file bytes) = t' := by
  constructor
  · intro h
    rw [write] at h
    split at h
    · exact absurd h (by simp)
    · next hway =>
      obtain ⟨d, hd, hshort, rfl⟩ := (resolve_concat_iff hp hn).mp hway
      split at h
      · exact absurd h (by simp)
      · next hentry => exact ⟨d, hd, hshort, hentry, Except.ok.inj h⟩
  · rintro ⟨d, hd, hshort, hentry, rfl⟩
    rw [write, (resolve_concat_iff hp hn).mpr ⟨d, hd, hshort, rfl⟩]
    dsimp only
    split
    · next hdir => exact absurd hdir hentry
    · rfl

/-- A file can get another name in its directory unless a directory has that name. -/
theorem LeadsTo.rename_concat_iff {t' : FileTree} {m : String} {bytes : List UInt8}
    (hd : t.LeadsTo p d) (hm : m ≠ "..") (hn : n ≠ "..")
    (hfile : t.entry? ⟨d.parts ++ [m]⟩ = some (.file bytes)) :
    t.rename ⟨p.parts ++ [m]⟩ ⟨p.parts ++ [n]⟩ = .ok t' ↔
      m.utf8ByteSize ≤ maxNameBytes ∧ n.utf8ByteSize ≤ maxNameBytes ∧
        t.entry? ⟨d.parts ++ [n]⟩ ≠ some .directory ∧
        (t.erase ⟨d.parts ++ [m]⟩).set ⟨d.parts ++ [n]⟩ (.file bytes) = t' := by
  constructor
  · intro h
    rw [rename] at h
    split at h
    · exact absurd h (by simp)
    · exact absurd h (by simp)
    · next hfrom hto =>
      obtain ⟨e, he, hshort, rfl⟩ := (resolve_concat_iff hd.parts hm).mp hfrom
      obtain rfl := hd.unique he
      obtain ⟨e, he, hshort', rfl⟩ := (resolve_concat_iff hd.parts hn).mp hto
      obtain rfl := hd.unique he
      rw [hfile] at h
      cases hthere : t.entry? ⟨d.parts ++ [n]⟩ with
      | none =>
          rw [hthere] at h
          exact ⟨hshort, hshort', by simp, Except.ok.inj h⟩
      | some e =>
          rw [hthere] at h
          cases e with
          | file _ => exact ⟨hshort, hshort', by simp, Except.ok.inj h⟩
          | directory => exact absurd h (by simp)
  · rintro ⟨hshort, hshort', hentry, rfl⟩
    rw [rename, (resolve_concat_iff hd.parts hm).mpr ⟨d, hd, hshort, rfl⟩,
      (resolve_concat_iff hd.parts hn).mpr ⟨d, hd, hshort', rfl⟩]
    dsimp only
    rw [hfile]
    cases hthere : t.entry? ⟨d.parts ++ [n]⟩ with
    | none => rfl
    | some e =>
        cases e with
        | file _ => rfl
        | directory => exact absurd hthere hentry

/-! ## Names in a directory -/

theorem before_iff {a b : String} : before a b = true ↔ ¬ b.toList < a.toList := by
  rw [before, Bool.not_eq_true', decide_eq_false_iff_not]

/-- Whether a path is that of an entry of a directory whose name ends with a suffix. -/
def isListed (d : Path) (suffix : String) (p : Path) : Bool :=
  p.parts.dropLast = d.parts && p.parts ≠ [] && suffix.toList.isSuffixOf p.name.toList

/-- The path of an entry of a directory is its name, after the path of the directory. -/
theorem isListed_iff {suffix : String} :
    isListed d suffix p = true ↔
      p = ⟨d.parts ++ [p.name]⟩ ∧ suffix.toList <:+ p.name.toList := by
  rw [isListed, Bool.and_eq_true, Bool.and_eq_true, decide_eq_true_iff, decide_eq_true_iff,
    List.isSuffixOf_iff_suffix]
  refine and_congr_left fun _ => ?_
  constructor
  · rintro ⟨hd, hne⟩
    have hname : p.name = p.parts.getLast hne := by
      rw [Path.name, List.getLast?_eq_some_getLast hne, Option.getD_some]
    rw [← hd, hname, List.dropLast_concat_getLast]
  · intro h
    have hparts : p.parts = d.parts ++ [p.name] := congrArg Path.parts h
    rw [hparts, List.dropLast_concat]
    exact ⟨rfl, by simp⟩

/-- The names in a directory that end with a suffix: those of its entries, each once and in code
point order. -/
theorem names_spec (suffix : String) (hd : t.resolve p = .ok d)
    (hunique : (t.entries.map Prod.fst).Nodup) :
    (∀ n, n ∈ t.names p suffix ↔
      (∃ e, (Path.mk (d.parts ++ [n]), e) ∈ t.entries) ∧ suffix.toList <:+ n.toList) ∧
    (t.names p suffix).Pairwise fun a b => a.toList < b.toList := by
  let listed := (t.entries.map Prod.fst).filterMap fun x =>
    if isListed d suffix x then some x.name else none
  have hnames : t.names p suffix = listed.mergeSort before := by
    rw [names, hd]
    simp only [listed, List.filterMap_map]
    rfl
  have hmem : ∀ n, n ∈ listed ↔
      (∃ e, (Path.mk (d.parts ++ [n]), e) ∈ t.entries) ∧ suffix.toList <:+ n.toList := by
    intro n
    simp only [listed, List.mem_filterMap, List.mem_map, Option.ite_none_right_eq_some,
      Option.some.injEq, isListed_iff]
    constructor
    · rintro ⟨x, ⟨e, he, rfl⟩, ⟨hpath, hsuffix⟩, rfl⟩
      exact ⟨⟨e.2, hpath ▸ he⟩, hsuffix⟩
    · rintro ⟨⟨e, he⟩, hsuffix⟩
      have hname : (Path.mk (d.parts ++ [n])).name = n := by simp [Path.name]
      exact ⟨_, ⟨_, he, rfl⟩, ⟨by rw [hname], by rwa [hname]⟩, hname⟩
  have hnodup : listed.Nodup := by
    refine List.Nodup.filterMap (fun x x' n hx hx' => ?_) hunique
    simp only [Option.mem_def, Option.ite_none_right_eq_some, Option.some.injEq,
      isListed_iff] at hx hx'
    obtain ⟨⟨hx, -⟩, hn⟩ := hx
    obtain ⟨⟨hx', -⟩, hn'⟩ := hx'
    rw [hx, hx', hn, hn']
  have hsorted : (listed.mergeSort before).Pairwise fun a b => before a b = true := by
    refine List.pairwise_mergeSort (fun a b c hab hbc => ?_) (fun a b => ?_) listed
    · exact before_iff.mpr (List.le_trans (before_iff.mp hab) (before_iff.mp hbc))
    · rw [Bool.or_eq_true, before_iff, before_iff]
      exact List.le_total a.toList b.toList
  rw [hnames]
  refine ⟨fun n => (List.mergeSort_perm listed before).mem_iff.trans (hmem n), ?_⟩
  refine (hsorted.and ((List.mergeSort_perm listed before).nodup_iff.mpr hnodup)).imp ?_
  rintro a b ⟨hle, hne⟩
  by_contra hlt
  exact hne (String.toList_inj.mp (List.le_antisymm (before_iff.mp hle) hlt))

end FileTree

end CommandBridge
