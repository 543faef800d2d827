import Mathlib.Data.String.Basic
import PolicyGate.Files.Directory

/-!
# Files of a directory

What can be read has a size, and what has a size and is no folder can be read. A path without slashes is
one step (`find_name`).
-/

namespace PolicyGate.Directory

variable {files : Directory} {path : String}

/-! ## Reading -/

theorem read_eq_ok_iff {content : Bytes} :
    files.read path = .ok content ↔ files.find path = .ok (.file content) := by
  unfold read
  cases files.find path with
  | error fault => constructor <;> rintro ⟨⟩
  | ok spot => cases spot <;> constructor <;> rintro ⟨⟩ <;> rfl

theorem sizeOf_of_read {content : Bytes} (h : files.read path = .ok content) :
    files.sizeOf path = .ok content.length := by
  unfold sizeOf
  rw [read_eq_ok_iff.mp h]
  rfl

theorem exists_read {size : Nat} (h : files.sizeOf path = .ok size) (file : files.find path ≠ .ok .folder) :
    ∃ content, files.read path = .ok content := by
  unfold sizeOf at h
  cases found : files.find path with
  | error fault =>
    rw [found] at h
    cases h
  | ok spot =>
    cases spot with
    | file content => exact ⟨content, read_eq_ok_iff.mpr found⟩
    | folder => exact absurd found file
    | free =>
      rw [found] at h
      cases h

/-! ## Names -/

theorem splitOnAux_append {rest : List Char} (slash : '/' ∉ rest) (front : List Char) :
    String.splitOnAux (String.ofList (front ++ rest)) "/" 0 ⟨String.utf8Len front⟩ 0 [] =
      [String.ofList (front ++ rest)] := by
  induction rest generalizing front with
  | nil =>
    have last : (⟨String.utf8Len front⟩ : String.Pos.Raw) = (String.ofList (front ++ [])).rawEndPos := by simp
    rw [String.splitOnAux, if_pos ((String.atEnd_of_valid front []).mpr rfl), last, String.extract_zero_rawEndPos]
    rfl
  | cons c rest ih =>
    have inside := mt (String.atEnd_of_valid front (c :: rest)).mp (List.cons_ne_nil c rest)
    have letter : String.Pos.Raw.get (String.ofList (front ++ c :: rest)) ⟨String.utf8Len front⟩ = c :=
      String.get_of_valid front (c :: rest)
    have sign : String.Pos.Raw.get "/" 0 = '/' := by decide +kernel
    have other : (c == '/') ≠ true := by simpa using (List.ne_of_not_mem_cons slash).symm
    have later := ih (List.not_mem_of_not_mem_cons slash) (front ++ [c])
    rw [String.utf8Len_append, String.utf8Len_cons, String.utf8Len_nil, Nat.zero_add, List.append_assoc] at later
    rw [String.splitOnAux, if_neg inside, letter, sign, if_neg other]
    show String.splitOnAux _ "/" 0 (String.Pos.Raw.next _ ⟨String.utf8Len front⟩) 0 [] = _
    rw [String.next_of_valid front c rest]
    exact later

theorem splitOn_name (slash : '/' ∉ path.toList) : path.splitOn "/" = [path] := by
  have one := splitOnAux_append slash []
  rw [List.nil_append, String.ofList_toList] at one
  exact one

theorem start_name (slash : '/' ∉ path.toList) : start path = [] := by
  have inside : path.startsWith "/" = false :=
    String.startsWith_string_eq_false_iff.mpr fun front => slash (front.subset (List.mem_singleton_self _))
  rw [start, inside]
  rfl

theorem find_name (named : path ≠ "") (zero : '\x00' ∉ path.toList) (short : path.utf8ByteSize ≤ longestPath)
    (slash : '/' ∉ path.toList) : files.find path = files.follow [] [path] := by
  have clean : path.contains '\x00' = false := by simpa using zero
  rw [find, if_neg named, clean, if_neg Bool.false_ne_true, if_neg (Nat.not_lt.mpr short), start_name slash,
    splitOn_name slash]

end PolicyGate.Directory
