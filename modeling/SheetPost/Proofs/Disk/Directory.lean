import SheetPost.Disk.Disk
import SheetPost.Proofs.Disk.Path
import SheetPost.Proofs.Step

namespace SheetPost

namespace Disk

structure IsName (name : String) : Prop where
  some : name ≠ ""
  flat : '/' ∉ name.toList
  whole : '\x00' ∉ name.toList
  ahead : name ≠ "." ∧ name ≠ ".."
  short : name.utf8ByteSize ≤ longestName

structure Sound (disk : Disk) : Prop where
  home : ∀ name ∈ disk.workingDirectory, IsName name
  nodup : (disk.entries.map (·.1)).Nodup
  names : ∀ entry ∈ disk.entries, ∀ name ∈ entry.1, IsName name

def LeadsTo (disk : Disk) (path : String) (place : Place) : Prop :=
  disk.seek path = .ok (place, .directory)

/-! ## Following a path -/

section Following

variable {disk : Disk} {path name : String} {place : Place} {last : LastStep}

def origin (disk : Disk) (path : String) : Place :=
  if path.startsWith "/" then [] else disk.workingDirectory

/-- What can be said of a path before it is followed. -/
structure Spelled (path : String) : Prop where
  whole : '\x00' ∉ path.toList
  some : path ≠ ""
  short : path.utf8ByteSize ≤ longestPath

theorem approach_of_spelled (disk : Disk) (spelled : Spelled path) :
    disk.approach path =
      ((Path.steps path).dropLast.foldlM disk.enter (disk.origin path)).map fun directory =>
        ⟨directory, (Path.steps path).getLast?.getD ".", path.endsWith "/"⟩ := by
  have whole : path.toList.contains '\x00' = false := by simpa using spelled.whole
  rw [approach, whole, if_neg Bool.false_ne_true, if_neg spelled.some,
    if_neg (Nat.not_lt.mpr spelled.short)]
  change (List.foldlM disk.enter (disk.origin path) _).bind _ = _
  cases (Path.steps path).dropLast.foldlM disk.enter (disk.origin path) <;> rfl

theorem spelled_of_approach (reached : disk.approach path = .ok last) : Spelled path := by
  unfold approach at reached
  by_cases nul : path.toList.contains '\x00' = true
  · rw [if_pos nul] at reached
    cases reached
  · by_cases empty : path = ""
    · rw [if_neg nul, if_pos empty] at reached
      cases reached
    · by_cases long : longestPath < path.utf8ByteSize
      · rw [if_neg nul, if_neg empty, if_pos long] at reached
        cases reached
      · exact ⟨by simpa using nul, empty, Nat.not_lt.mp long⟩

theorem approach_of_long (long : longestPath < path.utf8ByteSize) :
    ∃ fault, ∀ disk : Disk, disk.approach path = .error fault := by
  by_cases nul : path.toList.contains '\x00' = true
  · exact ⟨.nulInName, fun disk => by rw [approach, if_pos nul]; rfl⟩
  · by_cases empty : path = ""
    · exact ⟨.noEntry, fun disk => by rw [approach, if_neg nul, if_pos empty]; rfl⟩
    · exact ⟨.nameTooLong, fun disk => by
        rw [approach, if_neg nul, if_neg empty, if_pos long]; rfl⟩

theorem lookUp_eq_ok_iff {directory : Place} {entry : DiskEntry} :
    disk.lookUp directory name = .ok entry ↔
      name.utf8ByteSize ≤ longestName ∧ disk.entryAt? (step directory name) = some entry := by
  unfold lookUp
  split
  · next long => exact ⟨nofun, fun both => absurd both.1 (Nat.not_le.mpr long)⟩
  · next short =>
      have fits := Nat.not_lt.mp short
      cases disk.entryAt? (step directory name) with
      | none => exact ⟨nofun, fun both => nomatch both.2⟩
      | some found =>
          constructor
          · rintro ⟨⟩
            exact ⟨fits, rfl⟩
          · rintro ⟨_, ⟨⟩⟩
            rfl

theorem lookUp_eq_noEntry_iff {directory : Place} :
    disk.lookUp directory name = .error .noEntry ↔
      name.utf8ByteSize ≤ longestName ∧ disk.entryAt? (step directory name) = none := by
  unfold lookUp
  split
  · next long => exact ⟨nofun, fun both => absurd both.1 (Nat.not_le.mpr long)⟩
  · next short =>
      have fits := Nat.not_lt.mp short
      cases disk.entryAt? (step directory name) with
      | none => exact ⟨fun _ => ⟨fits, rfl⟩, fun _ => rfl⟩
      | some found => exact ⟨nofun, fun both => nomatch both.2⟩

theorem enter_eq_ok_iff {directory : Place} :
    disk.enter directory name = .ok place ↔
      disk.lookUp directory name = .ok .directory ∧ step directory name = place := by
  unfold enter
  cases disk.lookUp directory name with
  | error fault => exact ⟨nofun, fun both => nomatch both.1⟩
  | ok entry =>
      cases entry with
      | file content => exact ⟨nofun, fun both => nomatch both.1⟩
      | directory =>
          constructor
          · rintro ⟨⟩
            exact ⟨rfl, rfl⟩
          · rintro ⟨_, rfl⟩
            rfl

theorem leadsTo_of_approach (reached : disk.approach path = .ok last) :
    disk.LeadsTo path place ↔ disk.enter last.directory last.name = .ok place := by
  rw [LeadsTo, seek, reached, enter]
  change (disk.lookUp last.directory last.name).bind _ = _ ↔
    (disk.lookUp last.directory last.name).bind _ = _
  cases disk.lookUp last.directory last.name with
  | error fault => exact ⟨nofun, nofun⟩
  | ok entry =>
      cases entry with
      | file content =>
          constructor
          · intro sought
            cases closed : last.closed <;> simp [Except.bind, closed] at sought
            cases sought
          · nofun
      | directory =>
          constructor
          · rintro ⟨⟩
            rfl
          · rintro ⟨⟩
            rfl

theorem entryAt?_of_enter {directory : Place} (entered : disk.enter directory name = .ok place) :
    disk.entryAt? place = some .directory := by
  rcases enter_eq_ok_iff.mp entered with ⟨found, rfl⟩
  exact (lookUp_eq_ok_iff.mp found).2

theorem leadsTo_iff :
    disk.LeadsTo path place ↔
      Spelled path ∧ ∃ above,
        (Path.steps path).dropLast.foldlM disk.enter (disk.origin path) = .ok above ∧
        disk.enter above ((Path.steps path).getLast?.getD ".") = .ok place := by
  have reaching : Spelled path → (disk.LeadsTo path place ↔ ∃ above,
      (Path.steps path).dropLast.foldlM disk.enter (disk.origin path) = .ok above ∧
      disk.enter above ((Path.steps path).getLast?.getD ".") = .ok place) := by
    intro spelled
    have approached := approach_of_spelled disk spelled
    cases walked : (Path.steps path).dropLast.foldlM disk.enter (disk.origin path) with
    | error fault =>
        rw [walked] at approached
        rw [LeadsTo, seek, approached]
        exact ⟨nofun, fun ⟨_, same, _⟩ => nomatch same⟩
    | ok above =>
        rw [walked] at approached
        rw [leadsTo_of_approach approached]
        exact ⟨fun entered => ⟨above, rfl, entered⟩, fun ⟨_, same, entered⟩ =>
          Except.ok.inj same ▸ entered⟩
  constructor
  · intro leads
    cases approached : disk.approach path with
    | error fault =>
        rw [LeadsTo, seek, approached] at leads
        cases leads
    | ok last =>
        have spelled := spelled_of_approach approached
        exact ⟨spelled, (reaching spelled).mp leads⟩
  · rintro ⟨spelled, walked⟩
    exact (reaching spelled).mpr walked

theorem LeadsTo.spelled (leads : disk.LeadsTo path place) : Spelled path :=
  (leadsTo_iff.mp leads).1

theorem LeadsTo.entry (leads : disk.LeadsTo path place) :
    disk.entryAt? place = some .directory := by
  rcases leadsTo_iff.mp leads with ⟨_, above, _, entered⟩
  exact entryAt?_of_enter entered

theorem LeadsTo.walked (leads : disk.LeadsTo path place) :
    (Path.steps path).foldlM disk.enter (disk.origin path) = .ok place := by
  rcases leadsTo_iff.mp leads with ⟨_, above, walked, entered⟩
  rcases (Path.steps path).eq_nil_or_concat with none | ⟨before, name, split⟩
  · rw [none] at walked entered ⊢
    cases walked
    exact congrArg Except.ok (enter_eq_ok_iff.mp entered).2
  · rw [split, List.concat_eq_append] at walked entered ⊢
    rw [List.dropLast_concat] at walked
    rw [List.getLast?_concat] at entered
    rw [List.foldlM_append, walked]
    exact (bind_pure _).trans entered

end Following

/-! ## A file in the directory -/

section Files

variable {disk : Disk} {path name : String} {place : Place}

theorem step_of_isName (named : IsName name) (place : Place) :
    step place name = place ++ [name] := by
  rw [step, if_neg named.ahead.1, if_neg named.ahead.2]

theorem approach_join (leads : disk.LeadsTo path place) (flat : '/' ∉ name.toList)
    (some : name ≠ "") (spelled : Spelled (Path.join path name)) :
    disk.approach (Path.join path name) = .ok ⟨place, name, false⟩ := by
  have filled := leads.spelled.some
  rw [approach_of_spelled disk spelled, Path.steps_join flat some filled, List.dropLast_concat,
    List.getLast?_concat, Path.endsWith_slash_join flat some filled, origin,
    Path.startsWith_slash_join flat filled]
  have walked := leads.walked
  rw [origin] at walked
  rw [walked]
  rfl

theorem spelled_join (spelled : Spelled path) (named : IsName name)
    (short : (Path.join path name).utf8ByteSize ≤ longestPath) : Spelled (Path.join path name) := by
  rcases Path.join_eq named.flat spelled.some with ⟨between, joined, slash⟩
  refine ⟨?_, ?_, short⟩
  · intro nul
    rw [joined, String.toList_append, String.toList_append, List.mem_append, List.mem_append] at nul
    rcases nul with (inPath | inBetween) | inName
    · exact spelled.whole inPath
    · rcases slash with rfl | rfl <;> revert inBetween <;> decide
    · exact named.whole inName
  · intro empty
    rw [joined] at empty
    exact named.some (String.append_eq_empty_iff.mp empty).2

theorem approach_of_isName (leads : disk.LeadsTo path place) (named : IsName name)
    (short : (Path.join path name).utf8ByteSize ≤ longestPath) :
    disk.approach (Path.join path name) = .ok ⟨place, name, false⟩ :=
  approach_join leads named.flat named.some (spelled_join leads.spelled named short)

theorem find_join (leads : disk.LeadsTo path place) (named : IsName name)
    (short : (Path.join path name).utf8ByteSize ≤ longestPath) :
    disk.find (Path.join path name) = disk.lookUp place name := by
  rw [find, seek, approach_of_isName leads named short]
  change Except.map _ ((disk.lookUp place name).bind _) = _
  cases disk.lookUp place name with
  | error fault => rfl
  | ok entry => cases entry <;> rfl

theorem spelled_of_find {entry : DiskEntry} (found : disk.find path = .ok entry) :
    Spelled path := by
  cases approached : disk.approach path with
  | error fault =>
      rw [find, seek, approached] at found
      cases found
  | ok last => exact spelled_of_approach approached

theorem lookUp_of_short (disk : Disk) (place : Place) (short : name.utf8ByteSize ≤ longestName) :
    disk.lookUp place name =
      match disk.entryAt? (step place name) with
      | some entry => .ok entry
      | none => .error .noEntry :=
  if_neg (Nat.not_lt.mpr short)

theorem lookUp_of_isName (disk : Disk) (place : Place) (named : IsName name) :
    disk.lookUp place name =
      match disk.entryAt? (place ++ [name]) with
      | some entry => .ok entry
      | none => .error .noEntry := by
  rw [lookUp_of_short disk place named.short, step_of_isName named]

theorem write_of_approach {last : LastStep} (reached : disk.approach path = .ok last)
    (content : Content) :
    disk.write path content =
      if last.closed ∨ !last.named then .error .isDirectory
      else match disk.lookUp last.directory last.name with
        | .ok .directory => .error .isDirectory
        | .error .nameTooLong => .error .nameTooLong
        | _ => .ok (disk.put last.place (.file content)) := by
  rw [write, reached]
  change (if last.closed ∨ !last.named then _ else _) = _
  split <;> rfl

theorem goesOn_of_ahead (place : Place) (ahead : name ≠ "." ∧ name ≠ "..") :
    ¬((LastStep.mk place name false).closed = true ∨
      (!(LastStep.mk place name false).named) = true) := by
  simp [LastStep.named, ahead.1, ahead.2]

theorem write_join (leads : disk.LeadsTo path place) (named : IsName name)
    (short : (Path.join path name).utf8ByteSize ≤ longestPath) (content : Content)
    (free : disk.entryAt? (place ++ [name]) ≠ some .directory) :
    disk.write (Path.join path name) content =
      .ok (disk.put (place ++ [name]) (.file content)) := by
  have found := lookUp_of_isName disk place named
  rw [write_of_approach (approach_of_isName leads named short),
    if_neg (goesOn_of_ahead place named.ahead), LastStep.place, step_of_isName named]
  cases entry : disk.entryAt? (place ++ [name]) with
  | none =>
      rw [entry] at found
      rw [found]
  | some there =>
      rw [entry] at found free
      rw [found]
      cases there with
      | directory => exact absurd rfl free
      | file => rfl

theorem write_join_of_long (leads : disk.LeadsTo path place) (flat : '/' ∉ name.toList)
    (ahead : name ≠ "." ∧ name ≠ "..") (long : longestName < name.utf8ByteSize)
    (content : Content) : ∃ fault, disk.write (Path.join path name) content = .error fault := by
  cases approached : disk.approach (Path.join path name) with
  | error fault =>
      refine ⟨fault, ?_⟩
      rw [write, approached]
      rfl
  | ok last =>
      have some : name ≠ "" := by
        rintro rfl
        cases long
      have same := approached.symm.trans
        (approach_join leads flat some (spelled_of_approach approached))
      cases same
      have refused : disk.lookUp place name = .error .nameTooLong := by
        rw [lookUp, if_pos long]
      refine ⟨.nameTooLong, ?_⟩
      rw [write_of_approach approached, if_neg (goesOn_of_ahead place ahead), refused]

/-! ## The names in the directory -/

def namesIn (disk : Disk) (place : Place) : List String :=
  disk.entries.filterMap fun entry => if entry.1.dropLast = place then entry.1.getLast? else none

theorem list_of_leadsTo (leads : disk.LeadsTo path place) :
    disk.list path = .ok (disk.namesIn place) := by
  rw [list, leads]
  rfl

theorem getLast?_of_mem_iff {spot : Place} :
    (if spot.dropLast = place then spot.getLast? else none) = some name ↔
      spot = place ++ [name] := by
  constructor
  · intro found
    split at found
    · next above =>
        rcases List.getLast?_eq_some_iff.mp found with ⟨before, rfl⟩
        rw [List.dropLast_concat] at above
        rw [above]
    · cases found
  · rintro rfl
    rw [List.dropLast_concat, if_pos rfl, List.getLast?_concat]

theorem mem_namesIn : name ∈ disk.namesIn place ↔ disk.entryAt? (place ++ [name]) ≠ none := by
  have somewhere : place ++ [name] ≠ [] := by simp
  rw [namesIn, List.mem_filterMap, entryAt?, if_neg somewhere, ← Option.isSome_iff_ne_none,
    List.lookup_isSome_iff]
  simp only [getLast?_of_mem_iff, beq_iff_eq, eq_comm (a := place ++ [name])]

theorem Sound.namesIn_nodup (sound : disk.Sound) (place : Place) : (disk.namesIn place).Nodup := by
  have spots := sound.nodup
  rw [List.Nodup, List.pairwise_map] at spots
  refine List.Pairwise.filterMap _ ?_ spots
  intro first second apart name isFirst other isSecond same
  subst same
  rw [getLast?_of_mem_iff] at isFirst isSecond
  exact apart (isFirst.trans isSecond.symm)

end Files

/-! ## Writing files moves no directory -/

section Writing

variable {disk : Disk} {path : String} {place spot : Place} {entry : DiskEntry}

theorem enter_put (free : disk.entryAt? spot ≠ some .directory) (entry : DiskEntry)
    {above below : Place} (entered : disk.enter above name = .ok below) :
    (disk.put spot entry).enter above name = .ok below := by
  rcases enter_eq_ok_iff.mp entered with ⟨found, same⟩
  rcases lookUp_eq_ok_iff.mp found with ⟨short, directory⟩
  have apart : step above name ≠ spot := by
    rintro rfl
    exact free directory
  rw [enter_eq_ok_iff, lookUp_eq_ok_iff, entryAt?_put_other _ _ apart]
  exact ⟨⟨short, directory⟩, same⟩

theorem walk_put (free : disk.entryAt? spot ≠ some .directory) (entry : DiskEntry)
    {names : List String} {above below : Place}
    (walked : names.foldlM disk.enter above = .ok below) :
    names.foldlM (disk.put spot entry).enter above = .ok below := by
  induction names generalizing above with
  | nil => exact walked
  | cons name names induction =>
      rw [List.foldlM_cons] at walked ⊢
      cases first : disk.enter above name with
      | error fault =>
          rw [first] at walked
          cases walked
      | ok middle =>
          rw [first] at walked
          rw [enter_put free entry first]
          exact induction walked

theorem LeadsTo.put (leads : disk.LeadsTo path place) (free : disk.entryAt? spot ≠ some .directory)
    (entry : DiskEntry) : (disk.put spot entry).LeadsTo path place := by
  rcases leadsTo_iff.mp leads with ⟨spelled, above, before, last⟩
  exact leadsTo_iff.mpr ⟨spelled, above, walk_put free entry before, enter_put free entry last⟩

theorem approach_put {last : LastStep} (free : disk.entryAt? spot ≠ some .directory)
    (entry : DiskEntry) (reached : disk.approach path = .ok last) :
    (disk.put spot entry).approach path = .ok last := by
  have spelled := spelled_of_approach reached
  rw [approach_of_spelled disk spelled] at reached
  cases walked : (Path.steps path).dropLast.foldlM disk.enter (disk.origin path) with
  | error fault =>
      rw [walked] at reached
      cases reached
  | ok directory =>
      rw [walked] at reached
      have again := walk_put free entry walked
      rw [approach_of_spelled _ spelled]
      change ((Path.steps path).dropLast.foldlM (disk.put spot entry).enter
        (disk.origin path)).map _ = _
      rw [again]
      exact reached

/-! ## Reading what was written -/

theorem write_eq_ok_iff {content : Content} {after : Disk} :
    disk.write path content = .ok after ↔
      ∃ last, disk.approach path = .ok last ∧ last.closed = false ∧ last.named = true ∧
        last.name.utf8ByteSize ≤ longestName ∧ disk.entryAt? last.place ≠ some .directory ∧
        disk.put last.place (.file content) = after := by
  cases reached : disk.approach path with
  | error fault =>
      rw [write, reached]
      exact ⟨nofun, fun ⟨_, same, _⟩ => nomatch same⟩
  | ok last =>
      rw [write_of_approach reached]
      by_cases dotted : last.closed = true ∨ (!last.named) = true
      · rw [if_pos dotted]
        refine ⟨nofun, ?_⟩
        rintro ⟨_, ⟨⟩, opened, named, _⟩
        rw [opened, named] at dotted
        exact absurd dotted (by decide)
      rw [if_neg dotted]
      have plain : last.closed = false ∧ last.named = true := by simpa using dotted
      by_cases short : last.name.utf8ByteSize ≤ longestName
      · rw [lookUp_of_short disk _ short, ← LastStep.place]
        constructor
        · intro written
          refine ⟨last, rfl, plain.1, plain.2, short, ?_⟩
          cases there : disk.entryAt? last.place with
          | none =>
              rw [there] at written
              cases written
              exact ⟨nofun, rfl⟩
          | some entry =>
              rw [there] at written
              cases entry with
              | directory => cases written
              | file other =>
                  cases written
                  exact ⟨by simp, rfl⟩
        · rintro ⟨_, ⟨⟩, _, _, _, free, rfl⟩
          cases there : disk.entryAt? last.place with
          | none => rfl
          | some entry =>
              cases entry with
              | directory => exact absurd there free
              | file other => rfl
      · rw [lookUp, if_pos (Nat.lt_of_not_le short)]
        refine ⟨nofun, ?_⟩
        rintro ⟨_, ⟨⟩, _, _, fits, _⟩
        exact absurd fits short

theorem read_eq_ok_iff {content : Content} :
    disk.read path = .ok content ↔
      ∃ last, disk.approach path = .ok last ∧ last.closed = false ∧
        disk.lookUp last.directory last.name = .ok (.file content) := by
  unfold read find seek
  cases disk.approach path with
  | error fault => exact ⟨nofun, fun ⟨_, same, _⟩ => nomatch same⟩
  | ok last =>
      cases found : disk.lookUp last.directory last.name with
      | error fault => simp [bind, Except.bind, Except.map, found]
      | ok entry =>
          cases entry with
          | directory => simp [bind, Except.bind, Except.map, pure, Except.pure, found]
          | file other =>
              cases closed : last.closed <;>
                simp [bind, Except.bind, Except.map, pure, Except.pure, found, closed]

theorem read_of_write {content : Content} {after : Disk}
    (written : disk.write path content = .ok after) : after.read path = .ok content := by
  rcases write_eq_ok_iff.mp written with ⟨last, reached, opened, named, short, free, rfl⟩
  have somewhere : last.place ≠ [] := by
    intro root
    rw [root] at free
    exact free rfl
  exact read_eq_ok_iff.mpr ⟨last, approach_put free _ reached, opened,
    lookUp_eq_ok_iff.mpr ⟨short, entryAt?_put_same _ _ somewhere⟩⟩

theorem isDirectory_of_walk {names : List String} {start : Place} (nonempty : names ≠ [])
    (walked : names.foldlM disk.enter start = .ok place) :
    disk.entryAt? place = some .directory := by
  rcases names.eq_nil_or_concat with empty | ⟨before, name, split⟩
  · exact absurd empty nonempty
  · rw [split, List.concat_eq_append, List.foldlM_append] at walked
    cases above : before.foldlM disk.enter start with
    | error fault =>
        rw [above] at walked
        cases walked
    | ok directory =>
        rw [above] at walked
        exact entryAt?_of_enter ((bind_pure _).symm.trans walked)

/-- The last step to a file goes along its name if the path ends in one. Were it a dot, the steps
before it would have to lead to a directory and not to a file. -/
theorem named_of_fileName? {last : LastStep} {content : Content}
    (named : Path.fileName? path = some name) (reached : disk.approach path = .ok last)
    (there : disk.entryAt? last.place = some (.file content)) : last.named = true := by
  rw [approach_of_spelled disk (spelled_of_approach reached)] at reached
  rw [Path.fileName?, Path.names] at named
  rcases (Path.steps path).eq_nil_or_concat with empty | ⟨before, final, split⟩
  · rw [empty] at named
    cases named
  rw [split, List.concat_eq_append] at named reached
  rw [List.dropLast_concat, List.getLast?_concat] at reached
  cases walked : before.foldlM disk.enter (disk.origin path) with
  | error fault =>
      rw [walked] at reached
      cases reached
  | ok directory =>
      rw [walked] at reached
      cases reached
      have notUp : final ≠ ".." := by
        rintro rfl
        rw [List.filter_append, List.filter_cons_of_pos (by decide), List.filter_nil,
          List.getLast?_concat] at named
        cases named
      have notHere : final ≠ "." := by
        rintro rfl
        have nonempty : before ≠ [] := by
          rintro rfl
          cases named
        cases (isDirectory_of_walk nonempty walked).symm.trans there
      simp [LastStep.named, notUp, notHere]

theorem write_of_read {content : Content} (named : Path.fileName? path = some name)
    (found : disk.read path = .ok content) (other : Content) :
    ∃ after, disk.write path other = .ok after := by
  rcases read_eq_ok_iff.mp found with ⟨last, reached, opened, isFile⟩
  rcases lookUp_eq_ok_iff.mp isFile with ⟨short, there⟩
  have free : disk.entryAt? last.place ≠ some .directory := by
    rw [LastStep.place, there]
    simp
  exact ⟨_, write_eq_ok_iff.mpr ⟨last, reached, opened, named_of_fileName? named reached there,
    short, free, rfl⟩⟩

theorem mem_putEntry {entries : List (Place × DiskEntry)} {other : Place × DiskEntry}
    (member : other ∈ putEntry spot entry entries) : other = (spot, entry) ∨ other ∈ entries := by
  induction entries with
  | nil => exact .inl (List.mem_singleton.mp member)
  | cons head tail induction =>
      rw [putEntry] at member
      split at member
      · exact (List.mem_cons.mp member).imp_right (List.mem_cons_of_mem _)
      · rcases List.mem_cons.mp member with rfl | later
        · exact .inr List.mem_cons_self
        · exact (induction later).imp_right (List.mem_cons_of_mem _)

theorem spots_putEntry (spot : Place) (entry : DiskEntry) (entries : List (Place × DiskEntry)) :
    (putEntry spot entry entries).map (·.1) =
      if spot ∈ entries.map (·.1) then entries.map (·.1) else entries.map (·.1) ++ [spot] := by
  induction entries with
  | nil => rfl
  | cons head tail induction =>
      rw [putEntry]
      split
      · next same => simp [same]
      · next different =>
          simp only [List.map_cons, induction, List.mem_cons, Ne.symm different, false_or]
          split <;> simp

theorem Sound.put (sound : disk.Sound) (named : ∀ name ∈ spot, IsName name) (entry : DiskEntry) :
    (disk.put spot entry).Sound := by
  refine ⟨sound.home, ?_, ?_⟩
  · rw [Disk.put, spots_putEntry]
    split
    · exact sound.nodup
    · next absent =>
        refine List.nodup_append.mpr ⟨sound.nodup, List.pairwise_singleton _ _, ?_⟩
        rintro other member _ last rfl
        exact absent (List.mem_singleton.mp last ▸ member)
  · intro other member
    rcases mem_putEntry member with rfl | there
    · exact named
    · exact sound.names other there

theorem Sound.names_of_entryAt? (sound : disk.Sound) (there : disk.entryAt? place = some entry) :
    ∀ name ∈ place, IsName name := by
  rw [entryAt?] at there
  split at there
  · next root =>
      subst root
      exact fun _ member => absurd member List.not_mem_nil
  · rcases List.lookup_eq_some_iff.mp there with ⟨before, after, split, _⟩
    have member : (place, entry) ∈ disk.entries := by
      rw [split]
      exact List.mem_append_right _ List.mem_cons_self
    exact sound.names _ member

/-! ## Making directories -/

theorem Sound.names_of_walk (sound : disk.Sound) {names : List String} {start : Place}
    (starts : ∀ name ∈ start, IsName name) (walked : names.foldlM disk.enter start = .ok place) :
    ∀ name ∈ place, IsName name := by
  induction names generalizing start with
  | nil =>
      cases walked
      exact starts
  | cons name names induction =>
      rw [List.foldlM_cons] at walked
      cases entered : disk.enter start name with
      | error fault =>
          rw [entered] at walked
          cases walked
      | ok middle =>
          rw [entered] at walked
          exact induction (sound.names_of_entryAt? (entryAt?_of_enter entered)) walked

theorem Sound.origin (sound : disk.Sound) (path : String) :
    ∀ name ∈ disk.origin path, IsName name := by
  unfold Disk.origin
  split
  · exact fun _ member => absurd member List.not_mem_nil
  · exact sound.home

theorem Sound.of_approach {last : LastStep} (sound : disk.Sound)
    (approached : disk.approach path = .ok last) (named : last.named = true)
    (missing : disk.lookUp last.directory last.name = .error .noEntry) :
    ∀ name ∈ last.place, IsName name := by
  have spelled := spelled_of_approach approached
  rw [approach_of_spelled disk spelled] at approached
  cases walked : (Path.steps path).dropLast.foldlM disk.enter (disk.origin path) with
  | error fault =>
      rw [walked] at approached
      cases approached
  | ok directory =>
      rw [walked] at approached
      cases approached
      simp only [LastStep.named, Bool.decide_and, Bool.and_eq_true, decide_eq_true_eq] at named
      dsimp only at named missing
      have isStep : (Path.steps path).getLast?.getD "." ∈ Path.steps path := by
        cases last : (Path.steps path).getLast? with
        | none =>
            rw [last] at named
            exact absurd rfl named.1
        | some name => exact List.mem_of_getLast? last
      have short := (lookUp_eq_noEntry_iff.mp missing).1
      rcases Path.of_mem_steps isStep with ⟨some, characters⟩
      have isName : IsName ((Path.steps path).getLast?.getD ".") :=
        ⟨some, fun slash => (characters _ slash).2 rfl,
          fun nul => spelled.whole (characters _ nul).1, named, short⟩
      rw [LastStep.place, step_of_isName isName]
      intro name member
      rcases List.mem_append.mp member with above | isLast
      · exact sound.names_of_walk (sound.origin path) walked name above
      · exact List.mem_singleton.mp isLast ▸ isName

theorem makeDirectory_of_approach {last : LastStep} (reached : disk.approach path = .ok last) :
    disk.makeDirectory path =
      if !last.named then .error .exists
      else match disk.lookUp last.directory last.name with
        | .ok _ => .error .exists
        | .error .noEntry => .ok (disk.put last.place .directory)
        | .error fault => .error fault := by
  rw [makeDirectory, reached]
  change (if !last.named then _ else _) = _
  split <;> rfl

theorem Sound.makeDirectory {after : Disk} (sound : disk.Sound)
    (made : disk.makeDirectory path = .ok after) : after.Sound := by
  cases approached : disk.approach path with
  | error fault =>
      rw [Disk.makeDirectory, approached] at made
      cases made
  | ok last =>
      rw [makeDirectory_of_approach approached] at made
      split at made
      · cases made
      · next named =>
          split at made
          · cases made
          · next missing =>
              cases made
              exact sound.put (sound.of_approach approached (by simpa using named) missing) _
          · cases made

/-- The action leaves a sound disk sound, whether it fails or not. -/
def KeepsSound (action : ExceptT FileFault (StateM Disk) Unit) : Prop :=
  ∀ disk result after, action disk = (result, after) → disk.Sound → after.Sound

theorem KeepsSound.throw (fault : FileFault) : KeepsSound (throw fault) := by
  intro disk result after ran sound
  cases ran
  exact sound

theorem KeepsSound.bind {first next : ExceptT FileFault (StateM Disk) Unit}
    (keepsFirst : KeepsSound first) (keepsNext : KeepsSound next) :
    KeepsSound (first >>= fun _ => next) := by
  intro disk result after ran sound
  cases ranFirst : first disk with
  | mk outcome middle =>
      have soundMiddle := keepsFirst _ _ _ ranFirst sound
      cases outcome with
      | error error =>
          rw [Step.bind_error ranFirst] at ran
          cases ran
          exact soundMiddle
      | ok value =>
          rw [Step.bind_ok ranFirst] at ran
          exact keepsNext _ _ _ ran soundMiddle

theorem ensureDirectory_apply (path : String) (onMissing : ExceptT FileFault (StateM Disk) Unit)
    (disk : Disk) :
    ensureDirectory path onMissing disk =
      match disk.makeDirectory path with
      | .ok made => (.ok (), made)
      | .error .noEntry => onMissing disk
      | .error fault => (if disk.isDirectory path then .ok () else .error fault, disk) := by
  have got : (get : ExceptT FileFault (StateM Disk) Disk) disk = (.ok disk, disk) := rfl
  rw [ensureDirectory, Step.bind_ok got]
  cases disk.makeDirectory path with
  | ok made => rfl
  | error fault => cases fault <;> cases disk.isDirectory path <;> rfl

theorem KeepsSound.ensureDirectory {onMissing : ExceptT FileFault (StateM Disk) Unit}
    (keeps : KeepsSound onMissing) (path : String) :
    KeepsSound (ensureDirectory path onMissing) := by
  intro disk result after ran sound
  rw [ensureDirectory_apply] at ran
  split at ran
  · next made =>
      cases ran
      exact sound.makeDirectory made
  · exact keeps _ _ _ ran sound
  · cases ran
    exact sound

theorem keepsSound_makeInside (paths : List String) : KeepsSound (makeInside paths) := by
  induction paths with
  | nil => exact .throw _
  | cons path above induction =>
      unfold makeInside
      split
      · intro disk result after ran sound
        cases ran
        exact sound
      · exact (induction.bind ((KeepsSound.throw _).ensureDirectory path)).ensureDirectory path

theorem Sound.makeDirectories {result : Except FileFault Unit} {after : Disk} (sound : disk.Sound)
    (ran : makeDirectories path disk = (result, after)) : after.Sound :=
  keepsSound_makeInside _ _ _ _ ran sound

/-! ## A directory that is there -/

theorem LeadsTo.isDirectory (leads : disk.LeadsTo path place) : disk.isDirectory path = true := by
  rw [Disk.isDirectory, find, leads]
  rfl

theorem makeDirectory_of_leadsTo (leads : disk.LeadsTo path place) :
    disk.makeDirectory path = .error .exists := by
  cases approached : disk.approach path with
  | error fault =>
      rw [LeadsTo, seek, approached] at leads
      cases leads
  | ok last =>
      have found := (enter_eq_ok_iff.mp ((leadsTo_of_approach approached).mp leads)).1
      rw [makeDirectory_of_approach approached, found]
      split <;> rfl

theorem leadsTo_of_isDirectory (there : disk.isDirectory path = true) :
    ∃ place, disk.LeadsTo path place := by
  unfold Disk.isDirectory Disk.find at there
  cases sought : disk.seek path with
  | error fault =>
      rw [sought] at there
      cases there
  | ok found =>
      rcases found with ⟨place, entry⟩
      rw [sought] at there
      cases entry with
      | file content => cases there
      | directory => exact ⟨place, sought⟩

theorem makeDirectories_of_leadsTo (leads : disk.LeadsTo path place) :
    makeDirectories path disk = (.ok (), disk) := by
  rw [makeDirectories, makeInside, if_neg leads.spelled.some, ensureDirectory_apply,
    makeDirectory_of_leadsTo leads, leads.isDirectory]
  rfl

/-! ## A directory that is made -/

theorem leadsTo_of_makeDirectory {after : Disk} (made : disk.makeDirectory path = .ok after) :
    ∃ place, after.LeadsTo path place := by
  cases approached : disk.approach path with
  | error fault =>
      rw [makeDirectory, approached] at made
      cases made
  | ok last =>
      rw [makeDirectory_of_approach approached] at made
      split at made
      · cases made
      · split at made
        · cases made
        · next missing =>
            cases made
            rcases lookUp_eq_noEntry_iff.mp missing with ⟨short, new⟩
            have somewhere : last.place ≠ [] := by
              intro root
              rw [← LastStep.place, root] at new
              cases new
            have free : disk.entryAt? last.place ≠ some .directory := by
              rw [LastStep.place, new]
              nofun
            have reached := approach_put free .directory approached
            refine ⟨last.place, (leadsTo_of_approach reached).mpr (enter_eq_ok_iff.mpr ⟨?_, rfl⟩)⟩
            exact lookUp_eq_ok_iff.mpr ⟨short, entryAt?_put_same disk .directory somewhere⟩
        · cases made

def Leads (path : String) (action : ExceptT FileFault (StateM Disk) Unit) : Prop :=
  ∀ disk after, action disk = (.ok (), after) → ∃ place, after.LeadsTo path place

theorem Leads.ensureDirectory {onMissing : ExceptT FileFault (StateM Disk) Unit}
    (leads : Leads path onMissing) : Leads path (ensureDirectory path onMissing) := by
  intro disk after ran
  rw [ensureDirectory_apply] at ran
  split at ran
  · next made =>
      cases ran
      exact leadsTo_of_makeDirectory made
  · exact leads _ _ ran
  · split at ran
    · next there =>
        cases ran
        exact leadsTo_of_isDirectory there
    · cases ran

theorem leads_makeInside (some : path ≠ "") (above : List String) :
    Leads path (makeInside (path :: above)) := by
  rw [makeInside, if_neg some]
  refine Leads.ensureDirectory fun disk after ran => ?_
  cases ranAbove : makeInside above disk with
  | mk result middle =>
      cases result with
      | error fault =>
          rw [Step.bind_error ranAbove] at ran
          cases ran
      | ok value =>
          rw [Step.bind_ok ranAbove] at ran
          refine Leads.ensureDirectory (fun disk after ran => ?_) _ _ ran
          cases ran

theorem leadsTo_of_makeDirectories {made : Disk} (some : path ≠ "")
    (ready : makeDirectories path disk = (.ok (), made)) : ∃ place, made.LeadsTo path place :=
  leads_makeInside some _ _ _ ready

end Writing

end Disk

end SheetPost
