import SheetPost.Disk.Path

namespace SheetPost

namespace Path

/-! ## Pieces and steps -/

theorem pieces_ne_nil (characters : List Char) : pieces characters ≠ [] := by
  induction characters with
  | nil => exact List.cons_ne_nil _ _
  | cons character rest _ =>
      unfold pieces
      split
      · exact List.cons_ne_nil _ _
      · split <;> exact List.cons_ne_nil _ _

theorem pieces_append_slash (before after : List Char) :
    pieces (before ++ '/' :: after) = pieces before ++ pieces after := by
  induction before with
  | nil => rfl
  | cons character before induction =>
      by_cases slash : character = '/'
      · subst slash
        exact congrArg ([] :: ·) induction
      · rw [List.cons_append, pieces, if_neg slash, induction, pieces, if_neg slash]
        cases shape : pieces before with
        | nil => exact absurd shape (pieces_ne_nil before)
        | cons piece more => rfl

theorem pieces_of_flat {characters : List Char} (flat : '/' ∉ characters) :
    pieces characters = [characters] := by
  induction characters with
  | nil => rfl
  | cons character rest induction =>
      rw [List.mem_cons, not_or] at flat
      rw [pieces, if_neg (Ne.symm flat.1), induction flat.2]

theorem steps_append_slash {path name : String} (flat : '/' ∉ name.toList) (some : name ≠ "") :
    steps (path ++ "/" ++ name) = steps path ++ [name] := by
  have characters : (path ++ "/" ++ name).toList = path.toList ++ '/' :: name.toList := by
    rw [String.toList_append, String.toList_append, List.append_assoc]
    rfl
  have nonempty : name.toList ≠ [] := fun empty => some (String.toList_eq_nil_iff.mp empty)
  rw [steps, characters, pieces_append_slash, pieces_of_flat flat, List.filter_append,
    List.filter_cons_of_pos (by simpa using nonempty), List.map_append]
  exact congrArg (_ ++ [·]) String.ofList_toList

theorem steps_slash (path : String) : steps (path ++ "/") = steps path := by
  have characters : (path ++ "/").toList = path.toList ++ '/' :: [] := String.toList_append
  rw [steps, characters, pieces_append_slash, List.filter_append]
  exact congrArg _ (List.append_nil _)

theorem of_mem_pieces {characters piece : List Char} (member : piece ∈ pieces characters) :
    ∀ character ∈ piece, character ∈ characters ∧ character ≠ '/' := by
  induction characters generalizing piece with
  | nil =>
      cases List.mem_singleton.mp member
      exact fun _ inPiece => nomatch inPiece
  | cons head rest induction =>
      have later : ∀ {other : List Char}, other ∈ pieces rest → ∀ character ∈ other,
          character ∈ head :: rest ∧ character ≠ '/' := fun there character inPiece =>
        (induction there character inPiece).imp_left (List.mem_cons_of_mem _)
      unfold pieces at member
      split at member
      · rcases List.mem_cons.mp member with rfl | there
        · exact fun _ inPiece => nomatch inPiece
        · exact later there
      · next flat =>
          split at member
          · next none => exact absurd none (pieces_ne_nil rest)
          · next first more shape =>
              rw [shape] at later
              rcases List.mem_cons.mp member with rfl | there
              · rw [List.forall_mem_cons]
                exact ⟨⟨List.mem_cons_self, flat⟩, later List.mem_cons_self⟩
              · exact later (List.mem_cons_of_mem _ there)

theorem of_mem_steps {path name : String} (member : name ∈ steps path) :
    name ≠ "" ∧ ∀ character ∈ name.toList, character ∈ path.toList ∧ character ≠ '/' := by
  rcases List.mem_map.mp member with ⟨piece, kept, rfl⟩
  rcases List.mem_filter.mp kept with ⟨isPiece, nonempty⟩
  rw [String.toList_ofList]
  exact ⟨fun empty => of_decide_eq_true nonempty (String.ofList_eq_empty_iff.mp empty),
    of_mem_pieces isPiece⟩

/-! ## Slashes at the ends -/

theorem startsWith_slash_iff {path : String} :
    path.startsWith "/" = true ↔ path.toList.head? = some '/' := by
  rw [String.startsWith_string_iff]
  cases path.toList with
  | nil => exact ⟨fun initial => absurd (List.prefix_nil.mp initial) (by decide), nofun⟩
  | cons character rest =>
      change ['/'] <+: _ ↔ _
      rw [List.cons_prefix_cons, List.head?_cons, Option.some_inj]
      exact ⟨fun both => both.1.symm, fun same => ⟨same.symm, List.nil_prefix⟩⟩

theorem endsWith_slash_iff {path : String} :
    path.endsWith "/" = true ↔ ∃ before, path = before ++ "/" := by
  rw [← String.endsWith_toSlice, String.Slice.endsWith_string_iff, String.copy_toSlice]
  constructor
  · rintro ⟨before, joined⟩
    refine ⟨String.ofList before, String.toList_inj.mp ?_⟩
    rw [String.toList_append, String.toList_ofList, joined]
  · rintro ⟨before, rfl⟩
    exact ⟨before.toList, String.toList_append.symm⟩

theorem endsWith_slash_append {path name : String} (flat : '/' ∉ name.toList) (some : name ≠ "") :
    (path ++ name).endsWith "/" = false := by
  apply Bool.eq_false_iff.mpr
  intro ends
  rcases endsWith_slash_iff.mp ends with ⟨before, joined⟩
  have last := congrArg (·.toList.getLast?) joined
  have slash : ("/" : String).toList = ['/'] := rfl
  simp only [String.toList_append, slash, List.getLast?_concat] at last
  rw [List.getLast?_append, List.getLast?_eq_some_getLast (by simpa using some)] at last
  exact flat (Option.some_inj.mp last ▸ List.getLast_mem _)

/-! ## Joining -/

section Join

variable {directory name : String}

theorem join_cases (flat : '/' ∉ name.toList) (named : directory ≠ "") :
    (∃ before, directory = before ++ "/" ∧ join directory name = before ++ "/" ++ name) ∨
      join directory name = directory ++ "/" ++ name := by
  have relative : ¬(name.startsWith "/" = true ∨ directory = "") := by
    rintro (starts | empty)
    · exact flat (List.mem_of_head? (startsWith_slash_iff.mp starts))
    · exact named empty
  unfold join
  rw [if_neg relative]
  split
  · next ends =>
      rcases endsWith_slash_iff.mp ends with ⟨before, rfl⟩
      exact .inl ⟨before, rfl, rfl⟩
  · exact .inr rfl

theorem join_eq (flat : '/' ∉ name.toList) (named : directory ≠ "") :
    ∃ between, join directory name = directory ++ between ++ name ∧
      (between = "" ∨ between = "/") := by
  rcases join_cases flat named with ⟨before, same, joined⟩ | joined
  · exact ⟨"", by rw [joined, same, String.append_empty], .inl rfl⟩
  · exact ⟨"/", joined, .inr rfl⟩

theorem startsWith_slash_join (flat : '/' ∉ name.toList) (named : directory ≠ "") :
    (join directory name).startsWith "/" = directory.startsWith "/" := by
  rcases join_eq flat named with ⟨between, joined, _⟩
  rw [Bool.eq_iff_iff, startsWith_slash_iff, startsWith_slash_iff, joined, String.append_assoc,
    String.toList_append]
  cases shape : directory.toList with
  | nil => exact absurd (String.toList_eq_nil_iff.mp shape) named
  | cons character rest => rfl

theorem steps_join (flat : '/' ∉ name.toList) (some : name ≠ "") (named : directory ≠ "") :
    steps (join directory name) = steps directory ++ [name] := by
  rcases join_cases flat named with ⟨before, rfl, joined⟩ | joined
  · rw [joined, steps_append_slash flat some, steps_slash]
  · rw [joined, steps_append_slash flat some]

theorem endsWith_slash_join (flat : '/' ∉ name.toList) (some : name ≠ "") (named : directory ≠ "") :
    (join directory name).endsWith "/" = false := by
  rcases join_cases flat named with ⟨before, rfl, joined⟩ | joined <;>
    rw [joined, endsWith_slash_append flat some]

theorem utf8ByteSize_join (flat : '/' ∉ name.toList) (named : directory ≠ "") :
    (join directory name).utf8ByteSize =
      directory.utf8ByteSize + (if directory.endsWith "/" then 0 else 1) + name.utf8ByteSize := by
  have relative : ¬(name.startsWith "/" = true ∨ directory = "") := by
    rintro (starts | empty)
    · exact flat (List.mem_of_head? (startsWith_slash_iff.mp starts))
    · exact named empty
  unfold join
  rw [if_neg relative]
  split
  · rw [String.utf8ByteSize_append]
    rfl
  · rw [String.utf8ByteSize_append, String.utf8ByteSize_append]
    rfl

end Join

/-! ## The parts of a name -/

theorem takeWhile_reverse_dot (stem : List Char) {extension : List Char}
    (undotted : '.' ∉ extension) :
    ((stem ++ '.' :: extension).reverse.takeWhile (· != '.')).reverse = extension := by
  have plain : ∀ character ∈ extension.reverse, (character != '.') = true := by
    intro character member
    exact bne_iff_ne.mpr fun dot => undotted (dot ▸ List.mem_reverse.mp member)
  rw [List.reverse_append, List.reverse_cons, List.append_assoc,
    List.takeWhile_append_of_pos plain]
  exact (congrArg List.reverse (List.append_nil _)).trans (List.reverse_reverse _)

theorem take_dot (stem extension : List Char) :
    (stem ++ '.' :: extension).take
      ((stem ++ '.' :: extension).length - extension.length - 1) = stem := by
  have length : (stem ++ '.' :: extension).length - extension.length - 1 = stem.length := by
    rw [List.length_append, List.length_cons]
    omega
  rw [length, List.take_left]

theorem stemAndExtension_append {stem extension : String} (some : stem ≠ "")
    (undotted : '.' ∉ extension.toList) (ahead : stem ++ "." ++ extension ≠ "..") :
    stemAndExtension (stem ++ "." ++ extension) = (stem, .some extension) := by
  have characters : (stem ++ "." ++ extension).toList =
      stem.toList ++ '.' :: extension.toList := by
    rw [String.toList_append, String.toList_append, List.append_assoc]
    rfl
  have kept : ¬(stem ++ "." ++ extension = ".." ∨ stem.toList = [] ∨
      (!(stem.toList ++ '.' :: extension.toList).contains '.') = true) := by
    rintro (dots | empty | none)
    · exact ahead dots
    · exact some (String.toList_eq_nil_iff.mp empty)
    · simp at none
  simp only [stemAndExtension, characters, takeWhile_reverse_dot _ undotted, take_dot, if_neg kept,
    String.ofList_toList]

theorem eq_append_of_stemAndExtension {name stem extension : String}
    (parted : stemAndExtension name = (stem, some extension)) :
    name = stem ++ "." ++ extension ∧ stem ≠ "" := by
  simp only [stemAndExtension] at parted
  split at parted
  · cases parted
  · next kept =>
      simp only [not_or, Bool.not_eq_true', Bool.not_eq_false] at kept
      rcases kept with ⟨_, nonempty, dotted⟩
      have member : '.' ∈ name.toList.reverse := by simpa using dotted
      rcases List.eq_append_cons_of_mem member with ⟨after, before, split, undotted⟩
      have whole : name.toList = before.reverse ++ '.' :: after.reverse := by
        rw [← List.reverse_reverse name.toList, split, List.reverse_append, List.reverse_cons,
          List.append_assoc]
        rfl
      have undottedBack : '.' ∉ after.reverse := fun dot => undotted (List.mem_reverse.mp dot)
      rw [whole, takeWhile_reverse_dot _ undottedBack, take_dot] at parted nonempty
      rcases Prod.mk.inj parted with ⟨rfl, same⟩
      cases Option.some_inj.mp same
      refine ⟨String.toList_inj.mp ?_, fun empty => nonempty (String.ofList_eq_empty_iff.mp empty)⟩
      simp only [whole, String.toList_append, String.toList_ofList, List.append_assoc]
      rfl

theorem eq_or_eq_of_toLower {character lower upper : Char} (apart : upper.val + 32 = lower.val)
    (lowered : character.toLower = lower) : character = lower ∨ character = upper := by
  unfold Char.toLower at lowered
  split at lowered
  · refine .inr (Char.ext ?_)
    have same : character.val + 32 = upper.val + 32 := (congrArg Char.val lowered).trans apart.symm
    exact (UInt32.add_left_inj 32).mp same
  · exact .inl lowered

theorem of_toLower_eq_csv {extension : String} (lowered : extension.toLower = "csv") :
    extension.utf8ByteSize = 3 ∧ extension ≤ "csv" ∧ '.' ∉ extension.toList := by
  have characters : extension.toList.map Char.toLower = ['c', 's', 'v'] := by
    rw [← String.toList_map]
    exact congrArg String.toList lowered
  rcases List.map_eq_cons_iff.mp characters with ⟨first, _, shape, isFirst, later⟩
  rcases List.map_eq_cons_iff.mp later with ⟨second, _, rfl, isSecond, last⟩
  rcases List.map_eq_cons_iff.mp last with ⟨third, _, rfl, isThird, none⟩
  cases List.map_eq_nil_iff.mp none
  have capital : 'C'.val + 32 = 'c'.val ∧ 'S'.val + 32 = 's'.val ∧ 'V'.val + 32 = 'v'.val := by
    decide
  rw [String.ofList_toList.symm.trans (congrArg String.ofList shape)]
  rcases eq_or_eq_of_toLower capital.1 isFirst with rfl | rfl <;>
    rcases eq_or_eq_of_toLower capital.2.1 isSecond with rfl | rfl <;>
      rcases eq_or_eq_of_toLower capital.2.2 isThird with rfl | rfl <;>
        decide +kernel

end Path

end SheetPost
