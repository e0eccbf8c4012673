import BuildRepair.Proofs.File.Frame
import BuildRepair.Proofs.File.Replacing
import Mathlib.Algebra.Group.Nat.Defs
import Mathlib.Data.List.Perm.Subperm

/-
  When there is room for a temporary file. Temporary files beside one file have names of one length,
  and as many of them differ as there are marks (`temporary_injOn`). More marks are tried than
  there are files, so one of them is free (`exists_free`). So a file can be replaced or made,
  unless the path of a temporary one is too long or the marks do not suffice (`IsCramped`,
  `replaceText_of_not_cramped`).
-/

namespace BuildRepair

/-! ## Marks -/

namespace Text

theorem length_hexText (width n : Nat) : (hexText width n).length = width := by
  induction width generalizing n with
  | zero => rfl
  | succ width ih => simp [hexText, ih]

/-- Naturals with as many digits are told apart by them. -/
theorem hexText_injOn {width m n : Nat} (hm : m < 16 ^ width) (hn : n < 16 ^ width)
    (h : hexText width m = hexText width n) : m = n := by
  induction width generalizing m n with
  | zero => omega
  | succ width ih =>
    have hdigit : ∀ j < 16, ∀ k < 16, hexDigit j = hexDigit k → j = k := by decide
    unfold hexText at h
    obtain ⟨habove, hlast⟩ := List.append_inj' h rfl
    have hdiv := ih (by omega) (by omega) habove
    have hmod := hdigit _ (Nat.mod_lt m (by decide)) _ (Nat.mod_lt n (by decide))
      (List.singleton_inj.mp hlast)
    omega

end Text

/-! ## Names of temporary files -/

namespace Path

variable {p : Path} {name : String} {m n mark : Nat}

/-- How many bytes the name of a temporary file has more than that of the file. -/
def temporaryExcess : Nat := 14

theorem temporary_injOn (hm : m < 16 ^ 8) (hn : n < 16 ^ 8)
    (h : temporary name m = temporary name n) : m = n := by
  have hlists := congrArg String.toList h
  simp only [temporary, String.toList_append, String.toList_ofList] at hlists
  exact Text.hexText_injOn hm hn
    (List.append_cancel_left (List.append_cancel_right hlists))

theorem size_temporary (name : String) (mark : Nat) :
    (temporary name mark).utf8ByteSize = name.utf8ByteSize + temporaryExcess := by
  have hascii : ∀ k < 16, (Text.hexDigit k).val ≤ 127 := by decide
  have hmark : (String.ofList (Text.hexText 8 mark)).utf8ByteSize = 8 := by
    rw [Text.utf8ByteSize_ofList, Text.length_hexText]
    intro c hc
    obtain ⟨k, hk, rfl⟩ := Text.mem_hexText hc
    exact hascii k hk
  have hpoint : ".".utf8ByteSize = 1 := rfl
  have hending : ".tmp".utf8ByteSize = 4 := rfl
  unfold temporary temporaryExcess
  simp only [String.utf8ByteSize_append, hmark, hpoint, hending]
  omega

theorem isName_temporary (hname : IsName name) (mark : Nat) : IsName (temporary name mark) := by
  have hlong (short : String) (h : short.utf8ByteSize < temporaryExcess) :
      temporary name mark ≠ short := by
    rintro rfl
    rw [size_temporary] at h
    omega
  refine isName_of_not_mem ?_ (hlong _ (by decide)) (hlong _ (by decide)) (hlong _ (by decide))
  have hdigit : ∀ k < 16, Text.hexDigit k ≠ '/' := by decide
  have hmark : '/' ∉ Text.hexText 8 mark := fun hc => by
    obtain ⟨k, hk, hc⟩ := Text.mem_hexText hc
    exact hdigit k hk hc.symm
  simp [temporary, hname.slash, hmark]

theorem beside_child (hname : IsName name) (p : Path) (mark : Nat) :
    (p.child name).beside mark = p.child (temporary name mark) := by
  rw [child_eq hname, child_eq (isName_temporary hname mark)]
  simp [beside, temporary]

end Path

/-! ## Room for a temporary file -/

namespace Tree

open BuildRepair.Path (IsName temporary temporaryExcess)

variable {t u : Tree} {p : Path} {place : Place} {found : Option Entry} {name : String}
  {limit : Nat}

/-- The path of a temporary file is too long, or there are as many files as marks, so that all could
be taken. -/
def IsCramped (t : Tree) (p : Path) : Prop :=
  pathLimit < p.text.utf8ByteSize + temporaryExcess ∨ 16 ^ 8 ≤ t.entries.length

instance (t : Tree) (p : Path) : Decidable (t.IsCramped p) := inferInstanceAs (Decidable (_ ∨ _))

/-- A temporary file can be made if all of its paths can be followed and one is free. -/
theorem createBeside_of_free
    (hall : ∀ mark < limit, ∃ found, t.locate (p.beside mark) = .ok found)
    (hfree : ∃ mark < limit, ∃ l, t.locate (p.beside mark) = .ok (l, none)) :
    ∃ u q, t.createBeside p limit = .ok (u, q) := by
  induction limit with
  | zero =>
    obtain ⟨mark, hmark, -⟩ := hfree
    omega
  | succ limit ih =>
    obtain ⟨⟨l, e⟩, hl⟩ := hall limit (Nat.lt_succ_self limit)
    unfold createBeside create
    rw [hl]
    cases e with
    | none => exact ⟨_, _, rfl⟩
    | some e =>
      refine ih (fun mark hmark => hall mark (Nat.lt_succ_of_lt hmark)) ?_
      obtain ⟨mark, hmark, k, hk⟩ := hfree
      have hne : mark ≠ limit := by
        rintro rfl
        cases hl.symm.trans hk
      exact ⟨mark, by omega, k, hk⟩

/-- What stands somewhere is one of the entries. -/
theorem mem_keys_of_get? {l : Place} {e : Entry} (hne : l ≠ []) (h : t.get? l = some e) :
    l ∈ Assoc.keys t.entries := by
  unfold get? at h
  rw [if_neg hne] at h
  exact Assoc.mem_keys_of_find? h

/-- So many places can be taken as there are entries. -/
theorem le_of_taken {f : Nat → Place} (hf : ∀ m < limit, ∀ n < limit, f m = f n → m = n)
    (htaken : ∀ n < limit, f n ∈ Assoc.keys t.entries) : limit ≤ t.entries.length := by
  have hnodup : ((List.range limit).map f).Nodup := by
    refine List.Nodup.map_on ?_ List.nodup_range
    simpa using hf
  have hsubset : (List.range limit).map f ⊆ Assoc.keys t.entries := by
    intro l hl
    obtain ⟨n, hn, rfl⟩ := List.mem_map.mp hl
    exact htaken n (List.mem_range.mp hn)
  have hle := (hnodup.subperm hsubset).length_le
  rwa [List.length_map, List.length_range, Assoc.keys, List.length_map] at hle

/-- Not all of the marks that are tried are taken. -/
theorem exists_free (hname : IsName name) (hplace : t.locate (p.child name) = .ok (place, found))
    (hfew : t.entries.length < 16 ^ 8)
    (hall : ∀ mark, ∃ found, t.locate ((p.child name).beside mark) = .ok found) :
    ∃ mark < t.entries.length + 1, ∃ l, t.locate ((p.child name).beside mark) = .ok (l, none) := by
  by_contra hnone
  -- every mark names a file in one directory, so there are more files than entries
  have htaken : ∀ mark < t.entries.length + 1,
      place.dropLast ++ [temporary name mark] ∈ Assoc.keys t.entries := by
    intro mark hmark
    obtain ⟨⟨l, e⟩, hl⟩ := hall mark
    have hthere : t.get? l = e := (locate_get? hl).symm
    rw [Path.beside_child hname] at hl
    obtain ⟨base, hbase, hlast⟩ :=
      locate_beside rfl hname (Path.isName_temporary hname mark) hplace hl
    obtain rfl : place = base ++ [name] := hbase
    obtain rfl : l = base ++ [temporary name mark] := hlast
    rw [List.dropLast_concat]
    cases e with
    | none => exact absurd ⟨mark, hmark, _, Path.beside_child hname p mark ▸ hl⟩ hnone
    | some e => exact mem_keys_of_get? (by simp) hthere
  have hle := le_of_taken (fun m hm n hn heq => Path.temporary_injOn (by omega) (by omega)
    (List.singleton_inj.mp (List.append_cancel_left heq))) htaken
  omega

/-- A file can be replaced or made where there is room for a temporary one, unless a directory is in
its place. -/
theorem replaceText_of_not_cramped (hname : IsName name)
    (hshort : name.utf8ByteSize + temporaryExcess ≤ nameLimit)
    (hplace : t.locate (p.child name) = .ok (place, found)) (hdir : found ≠ some .directory)
    (hroom : ¬ t.IsCramped (p.child name)) (text : String) :
    ∃ u, t.replaceText (p.child name) text = (u, .ok ()) := by
  obtain ⟨hlength, hfew⟩ := not_or.mp hroom
  have hall (mark : Nat) : ∃ found, t.locate ((p.child name).beside mark) = .ok found := by
    rw [Path.beside_child hname]
    have hsize := Path.size_temporary name mark
    refine locate_sibling_of_size (.refl t) hname (Path.isName_temporary hname mark)
      (fun _ hc => Path.mem_temporary hc) (hsize ▸ hshort) ?_ hplace
    obtain ⟨stem, hstem⟩ := Path.exists_stem p
    rw [hstem _ hname, String.utf8ByteSize_append] at hlength
    rw [hstem _ (Path.isName_temporary hname mark), String.utf8ByteSize_append, hsize]
    omega
  obtain ⟨u, q, hmade⟩ := createBeside_of_free (fun mark _ => hall mark)
    (exists_free hname hplace (Nat.not_le.mp hfew) hall)
  exact replaceText_of_made hplace hdir hmade text

end Tree
end BuildRepair
