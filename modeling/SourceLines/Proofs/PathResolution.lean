/-
# Where paths lead

The pieces of a path lead from a directory to what they name: a file, or a
directory. Every link on the way is replaced by its own pieces, so a path leads
somewhere through a certain number of links; a dangling link and a circle of links
lead nowhere. The resolver, which counts links down from a limit, answers exactly
where a path leads through as many links as the limit allows.

A path that is put together from the path of a directory and the names of real
directories in it leads on from where the directory is, and through no further
links.
-/

import SourceLines.Proofs.EntryTrees

namespace SourceLines

namespace FileSystem

/-- A piece of a path that is looked up in a directory. Empty pieces and dots are
not, and no entry has a name that is too long. -/
structure IsLookedUp (piece : String) : Prop where
  notEmpty : piece ≠ ""
  notCurrent : piece ≠ "."
  notParent : piece ≠ ".."
  short : piece.utf8ByteSize ≤ maxNameBytes

theorem IsLookedUp.ofName {name : String} (isName : Entry.IsName name) : IsLookedUp name :=
  ⟨isName.notEmpty, isName.notCurrent, isName.notParent, isName.short⟩

/-- What stands under a name in the directory at a place. -/
def entryAt? (system : FileSystem) (location : Location) (name : String) : Option Entry :=
  (Entry.entriesBelow? location system.entries).bind (Entry.find? · name)

/-- The pieces of a path lead from the directory at a place to a target, through
so many links. -/
inductive Leads (system : FileSystem) : Nat → Location → List String → Target → Prop
  /-- No pieces are left in a directory. -/
  | stop {location : Location} {entries : List Entry}
      (here : Entry.entriesBelow? location system.entries = some entries) :
      Leads system 0 location [] (.directory location entries)
  /-- An empty piece or a dot says nothing. -/
  | stay {links : Nat} {location : Location} {piece : String} {pieces : List String}
      {target : Target} (nothing : piece = "" ∨ piece = ".")
      (rest : Leads system links location pieces target) :
      Leads system links location (piece :: pieces) target
  /-- Two dots lead to the parent, and from the root to the root. -/
  | up {links : Nat} {location : Location} {pieces : List String} {target : Target}
      (rest : Leads system links location.dropLast pieces target) :
      Leads system links location (".." :: pieces) target
  /-- The name of a directory leads into it. -/
  | enter {links : Nat} {location : Location} {piece name : String} {entries : List Entry}
      {pieces : List String} {target : Target} (lookedUp : IsLookedUp piece)
      (found : system.entryAt? location piece = some (.directory name entries))
      (rest : Leads system links (location ++ [piece]) pieces target) :
      Leads system links location (piece :: pieces) target
  /-- The name of a file leads to it when it is the last piece. -/
  | file {location : Location} {piece name : String} {content : Bytes}
      (lookedUp : IsLookedUp piece)
      (found : system.entryAt? location piece = some (.file name content)) :
      Leads system 0 location [piece] (.file (location ++ [piece]) content)
  /-- The name of a link leads to where its own pieces lead, with the pieces that
  are left over behind them. -/
  | link {links : Nat} {location : Location} {piece name text : String} {pieces : List String}
      {target : Target} (lookedUp : IsLookedUp piece)
      (found : system.entryAt? location piece = some (.link name text))
      (rest : Leads system links (if PathName.isAbsolute text then [] else location)
        (PathName.pieces text ++ pieces) target) :
      Leads system (links + 1) location (piece :: pieces) target

variable {system : FileSystem}

/-! ## The resolver -/

/-- How the resolver goes on at a link when so many links are allowed. -/
def followLinkWithin (system : FileSystem) :
    Nat → Location → List String → Except SystemError Target
  | 0 => fun _ _ => .error .tooManyLinks
  | links + 1 => system.follow links

theorem follow_eq_followPieces (limit : Nat) :
    system.follow limit = system.followPieces (system.followLinkWithin limit) := by
  cases limit <;> rfl

theorem followPieces_of_nothing
    (followLink : Location → List String → Except SystemError Target) (location : Location)
    {piece : String} (nothing : piece = "" ∨ piece = ".") (pieces : List String) :
    system.followPieces followLink location (piece :: pieces) =
      system.followPieces followLink location pieces := by
  rw [followPieces, if_pos (by simpa using nothing)]

theorem followPieces_parent
    (followLink : Location → List String → Except SystemError Target) (location : Location)
    (pieces : List String) :
    system.followPieces followLink location (".." :: pieces) =
      system.followPieces followLink location.dropLast pieces := by
  rw [followPieces, if_neg (by decide), if_pos rfl]

/-- A piece that is looked up is treated as the entry found demands. -/
theorem followPieces_of_isLookedUp
    (followLink : Location → List String → Except SystemError Target) (location : Location)
    {piece : String} (lookedUp : IsLookedUp piece) (pieces : List String) :
    system.followPieces followLink location (piece :: pieces) =
      match system.entryAt? location piece with
      | none => .error .notFound
      | some (.directory _ _) => system.followPieces followLink (location ++ [piece]) pieces
      | some (.file _ content) =>
          if pieces.isEmpty then .ok (.file (location ++ [piece]) content)
          else .error .notDirectory
      | some (.link _ text) =>
          followLink (if PathName.isAbsolute text then [] else location)
            (PathName.pieces text ++ pieces) := by
  rw [followPieces, if_neg (by simp [lookedUp.notEmpty, lookedUp.notCurrent]),
    if_neg lookedUp.notParent, if_neg (Nat.not_lt.mpr lookedUp.short)]
  rfl

/-- Where the resolver ends, the pieces lead, if that is so for the links that it
follows. -/
theorem leads_of_followPieces {limit : Nat}
    {followLink : Location → List String → Except SystemError Target}
    (linkLeads : ∀ location pieces target, followLink location pieces = .ok target →
      ∃ links < limit, system.Leads links location pieces target)
    {location : Location} {pieces : List String} {target : Target}
    (ends : system.followPieces followLink location pieces = .ok target) :
    ∃ links ≤ limit, system.Leads links location pieces target := by
  induction pieces generalizing location with
  | nil =>
      rw [followPieces] at ends
      split at ends
      · next entries here =>
        cases ends
        exact ⟨0, Nat.zero_le _, .stop here⟩
      · cases ends
  | cons piece pieces ih =>
      by_cases nothing : piece = "" ∨ piece = "."
      · rw [followPieces_of_nothing _ _ nothing] at ends
        obtain ⟨links, within, rest⟩ := ih ends
        exact ⟨links, within, .stay nothing rest⟩
      by_cases parent : piece = ".."
      · subst parent
        rw [followPieces_parent] at ends
        obtain ⟨links, within, rest⟩ := ih ends
        exact ⟨links, within, .up rest⟩
      by_cases short : piece.utf8ByteSize ≤ maxNameBytes
      · have lookedUp : IsLookedUp piece :=
          ⟨fun empty => nothing (.inl empty), fun dot => nothing (.inr dot), parent, short⟩
        rw [followPieces_of_isLookedUp followLink location lookedUp] at ends
        split at ends
        · cases ends
        · next found =>
          obtain ⟨links, within, rest⟩ := ih ends
          exact ⟨links, within, .enter lookedUp found rest⟩
        · next found =>
          split at ends
          · next last =>
            cases ends
            rw [List.isEmpty_iff.mp last]
            exact ⟨0, Nat.zero_le _, .file lookedUp found⟩
          · cases ends
        · next found =>
          obtain ⟨links, within, rest⟩ := linkLeads _ _ _ ends
          exact ⟨links + 1, within, .link lookedUp found rest⟩
      · rw [followPieces, if_neg (by simpa using nothing), if_neg parent,
          if_pos (Nat.not_le.mp short)] at ends
        cases ends

/-- The resolver ends only where the pieces lead. -/
theorem leads_of_follow {limit : Nat} {location : Location} {pieces : List String}
    {target : Target} (ends : system.follow limit location pieces = .ok target) :
    ∃ links ≤ limit, system.Leads links location pieces target := by
  induction limit generalizing location pieces target with
  | zero => exact leads_of_followPieces (fun _ _ _ failed => by cases failed) ends
  | succ limit ih =>
      apply leads_of_followPieces _ ends
      intro location pieces target ends
      obtain ⟨links, within, leads⟩ := ih ends
      exact ⟨links, Nat.lt_succ_of_le within, leads⟩

/-- Where the pieces lead, the resolver ends, if it may follow enough links. -/
theorem Leads.follow {links limit : Nat} {location : Location} {pieces : List String}
    {target : Target} (leads : system.Leads links location pieces target)
    (within : links ≤ limit) : system.follow limit location pieces = .ok target := by
  induction leads generalizing limit with
  | stop here => rw [follow_eq_followPieces, followPieces, here]
  | stay nothing rest ih =>
      rw [follow_eq_followPieces, followPieces_of_nothing _ _ nothing, ← follow_eq_followPieces]
      exact ih within
  | up rest ih =>
      rw [follow_eq_followPieces, followPieces_parent, ← follow_eq_followPieces]
      exact ih within
  | enter lookedUp found rest ih =>
      rw [follow_eq_followPieces, followPieces_of_isLookedUp _ _ lookedUp, found]
      simp only [← follow_eq_followPieces]
      exact ih within
  | file lookedUp found =>
      rw [follow_eq_followPieces, followPieces_of_isLookedUp _ _ lookedUp, found]
      rfl
  | link lookedUp found rest ih =>
      cases limit with
      | zero => cases within
      | succ limit =>
          rw [follow_eq_followPieces, followPieces_of_isLookedUp _ _ lookedUp, found]
          exact ih (Nat.le_of_succ_le_succ within)

/-! ## The file system's answers -/

/-- What a path that keeps to the limits of a file system leads to. -/
structure LeadsTo (system : FileSystem) (path : String) (target : Target) : Prop where
  notEmpty : path ≠ ""
  noZero : '\x00' ∉ path.toList
  short : path.utf8ByteSize ≤ maxPathBytes
  leads : ∃ links ≤ maxLinks,
    system.Leads links (system.startOf path) (PathName.pieces path) target

theorem isTooLong_eq_false_iff {path : String} :
    isTooLong path = false ↔ path.utf8ByteSize ≤ maxPathBytes := by
  simp [isTooLong]

/-- The file system resolves a path to what the path leads to, and to nothing
else. -/
theorem resolve_eq_ok_iff {path : String} {target : Target} :
    system.resolve path = .ok target ↔ system.LeadsTo path target := by
  constructor
  · intro resolved
    unfold resolve resolveFrom at resolved
    split at resolved
    · cases resolved
    split at resolved
    · cases resolved
    split at resolved
    · cases resolved
    · next notEmpty noZero short =>
      exact ⟨notEmpty, by simpa using noZero,
        isTooLong_eq_false_iff.mp (eq_false_of_ne_true short), leads_of_follow resolved⟩
  · rintro ⟨notEmpty, noZero, short, links, within, leads⟩
    unfold resolve resolveFrom
    rw [if_neg notEmpty, if_neg (by simpa using noZero),
      if_neg (ne_true_of_eq_false (isTooLong_eq_false_iff.mpr short))]
    exact leads.follow within

theorem isFile_iff {path : String} :
    system.isFile path = true ↔
      ∃ location content, system.LeadsTo path (.file location content) := by
  simp only [← resolve_eq_ok_iff]
  unfold isFile
  cases system.resolve path with
  | error error => simp
  | ok target => cases target <;> simp

theorem LeadsTo.read {path : String} {location : Location} {content : Bytes}
    (leadsTo : system.LeadsTo path (.file location content)) : system.read path = .ok content := by
  rw [FileSystem.read, resolve_eq_ok_iff.mpr leadsTo]

/-- A path that is too long is not read. -/
theorem read_of_isTooLong {path : String} (long : maxPathBytes < path.utf8ByteSize) :
    ∃ error, system.read path = .error error := by
  unfold FileSystem.read
  cases resolved : system.resolve path with
  | error error => exact ⟨error, rfl⟩
  | ok target => exact absurd (resolve_eq_ok_iff.mp resolved).short (Nat.not_le.mpr long)

/-! ## Leading on -/

/-- Empty pieces and dots lead to the directory they start from. -/
theorem leads_of_nothing {location : Location} {entries : List Entry} {pieces : List String}
    (here : Entry.entriesBelow? location system.entries = some entries)
    (nothing : ∀ piece ∈ pieces, piece = "" ∨ piece = ".") :
    system.Leads 0 location pieces (.directory location entries) := by
  induction pieces with
  | nil => exact .stop here
  | cons piece rest ih =>
      have restNothing : ∀ other ∈ rest, other = "" ∨ other = "." := by
        intro other member
        exact nothing other (List.mem_cons_of_mem piece member)
      exact .stay (nothing piece List.mem_cons_self) (ih restNothing)

/-- Where a directory is reached, its entries are found. -/
theorem Leads.entriesBelow? {links : Nat} {location inner : Location} {pieces : List String}
    {entries : List Entry} (leads : system.Leads links location pieces (.directory inner entries)) :
    Entry.entriesBelow? inner system.entries = some entries := by
  generalize reached : Target.directory inner entries = target at leads
  induction leads with
  | stop here =>
      cases reached
      exact here
  | stay nothing rest ih => exact ih reached
  | up rest ih => exact ih reached
  | enter lookedUp found rest ih => exact ih reached
  | file lookedUp found => cases reached
  | link lookedUp found rest ih => exact ih reached

/-- More pieces lead on from the directory that the first ones lead to. -/
theorem Leads.append {first second : Nat} {location inner : Location} {pieces more : List String}
    {entries : List Entry} {target : Target}
    (toDirectory : system.Leads first location pieces (.directory inner entries))
    (further : system.Leads second inner more target) :
    system.Leads (first + second) location (pieces ++ more) target := by
  generalize reached : Target.directory inner entries = middle at toDirectory
  induction toDirectory with
  | stop here =>
      cases reached
      rw [Nat.zero_add]
      exact further
  | stay nothing rest ih => exact .stay nothing (ih reached)
  | up rest ih => exact .up (ih reached)
  | enter lookedUp found rest ih => exact .enter lookedUp found (ih reached)
  | file lookedUp found => cases reached
  | link lookedUp found rest ih =>
      -- The pieces of the link come first, so what is appended stays behind them.
      have leads := ih reached
      rw [List.append_assoc] at leads
      rw [Nat.add_right_comm]
      exact .link lookedUp found leads

/-- A slash at the end makes no difference to the path of a directory. -/
theorem Leads.of_append_empty {links : Nat} {location inner : Location} {pieces : List String}
    {entries : List Entry}
    (leads : system.Leads links location (pieces ++ [""]) (.directory inner entries)) :
    system.Leads links location pieces (.directory inner entries) := by
  generalize followed : pieces ++ [""] = all at leads
  generalize reached : Target.directory inner entries = target at leads
  induction leads generalizing pieces with
  | stop here => exact absurd followed (by simp)
  | stay nothing rest ih =>
      cases pieces with
      | nil =>
          cases followed
          exact reached ▸ rest
      | cons piece pieces =>
          cases followed
          exact .stay nothing (ih rfl reached)
  | up rest ih =>
      cases pieces with
      | nil => exact absurd followed (by simp)
      | cons piece pieces =>
          cases followed
          exact .up (ih rfl reached)
  | enter lookedUp found rest ih =>
      cases pieces with
      | nil =>
          cases followed
          exact absurd rfl lookedUp.notEmpty
      | cons piece pieces =>
          cases followed
          exact .enter lookedUp found (ih rfl reached)
  | file lookedUp found => cases reached
  | link lookedUp found rest ih =>
      cases pieces with
      | nil =>
          cases followed
          exact absurd rfl lookedUp.notEmpty
      | cons piece pieces =>
          cases followed
          exact .link lookedUp found (ih (List.append_assoc ..) reached)

/-- What stands in a directory is looked up there by its name. -/
theorem entryAt?_of_mem {location : Location} {entries : List Entry} {entry : Entry}
    (here : Entry.entriesBelow? location system.entries = some entries)
    (wellNamed : Entry.AllWellNamed entries) (member : entry ∈ entries) :
    system.entryAt? location entry.name = some entry := by
  rw [entryAt?, here]
  exact Entry.find?_of_mem wellNamed.distinct member

/-- The entries of a directory that stands in another one are found behind its name. -/
theorem entriesBelow?_of_mem {location : Location} {entries inner : List Entry} {name : String}
    (here : Entry.entriesBelow? location system.entries = some entries)
    (wellNamed : Entry.AllWellNamed entries) (member : .directory name inner ∈ entries) :
    Entry.entriesBelow? (location ++ [name]) system.entries = some inner := by
  have found : Entry.find? entries name = some (.directory name inner) :=
    Entry.find?_of_mem wellNamed.distinct member
  rw [Entry.entriesBelow?_append, here, Option.bind_some, Entry.entriesBelow?, found]
  rfl

/-- The names of real directories and of a file in the last one lead to the file,
through no links. -/
theorem leads_of_reaches {location : Location} {entries : List Entry} {names : List String}
    {name : String} {content : Bytes}
    (here : Entry.entriesBelow? location system.entries = some entries)
    (wellNamed : Entry.AllWellNamed entries)
    (reaches : Entry.Reaches entries names (.file name content)) :
    ∃ place, system.Leads 0 location (names ++ [name]) (.file place content) := by
  generalize reached : Entry.file name content = entry at reaches
  induction reaches generalizing location with
  | here member =>
      subst reached
      have stands := entryAt?_of_mem here wellNamed member
      exact ⟨_, .file (.ofName (wellNamed.each _ member).isName) stands⟩
  | inside member rest ih =>
      have directoryNamed := wellNamed.each _ member
      have stands := entryAt?_of_mem here wellNamed member
      have there := entriesBelow?_of_mem here wellNamed member
      obtain ⟨place, leads⟩ := ih there directoryNamed.inside reached
      exact ⟨place, .enter (.ofName directoryNamed.isName) stands leads⟩

/-- Where a path leads to a directory, its entries are found. -/
theorem LeadsTo.entriesBelow? {path : String} {location : Location} {entries : List Entry}
    (leadsTo : system.LeadsTo path (.directory location entries)) :
    Entry.entriesBelow? location system.entries = some entries := by
  obtain ⟨links, within, leads⟩ := leadsTo.leads
  exact leads.entriesBelow?

/-- The entries of a directory that a path leads to are well-named. -/
theorem LeadsTo.allWellNamed {path : String} {location : Location} {entries : List Entry}
    (leadsTo : system.LeadsTo path (.directory location entries)) (wellNamed : system.WellNamed) :
    Entry.AllWellNamed entries :=
  Entry.AllWellNamed.entriesBelow? wellNamed leadsTo.entriesBelow?

/-- Where names lead from the directory that a root leads to, their path below the root
leads as well, unless it is too long. -/
theorem LeadsTo.below_of_leads {root : String} {location : Location} {entries : List Entry}
    {names : List String} {target : Target}
    (toRoot : system.LeadsTo root (.directory location entries)) (notNil : names ≠ [])
    (named : ∀ name ∈ names, Entry.IsName name) (further : system.Leads 0 location names target)
    (short : (PathName.below root names).utf8ByteSize ≤ maxPathBytes) :
    system.LeadsTo (PathName.below root names) target := by
  obtain ⟨links, within, leads⟩ := toRoot.leads
  have noSlash : ∀ name ∈ names, '/' ∉ name.toList := by
    intro name member
    exact (named name member).noSlash
  -- The root may end with a slash, behind which the path goes on without another one.
  have front : ∃ front, PathName.pieces (PathName.below root names) = front ++ names ∧
      system.Leads links (system.startOf root) front (.directory location entries) := by
    obtain ⟨front, -, cut, whole | slash⟩ := PathName.pieces_below root notNil noSlash
    · exact ⟨front, cut, whole ▸ leads⟩
    · exact ⟨front, cut, (slash ▸ leads).of_append_empty⟩
  obtain ⟨front, cut, leads⟩ := front
  refine ⟨PathName.below_ne_empty toRoot.notEmpty _, ?_, short, links, within, ?_⟩
  · intro zero
    rcases PathName.mem_below zero with inRoot | slash | ⟨other, member, inside⟩
    · exact toRoot.noZero inRoot
    · exact absurd slash (by decide)
    · exact (named other member).noZero inside
  · rw [startOf, PathName.isAbsolute_below toRoot.notEmpty, ← startOf, cut]
    exact leads.append further

/-- The path of a file below a root leads to the file, unless it is too long. -/
theorem LeadsTo.below {root : String} {location : Location} {entries : List Entry}
    {names : List String} {name : String} {content : Bytes}
    (toRoot : system.LeadsTo root (.directory location entries)) (wellNamed : system.WellNamed)
    (reaches : Entry.Reaches entries names (.file name content))
    (short : (PathName.below root (names ++ [name])).utf8ByteSize ≤ maxPathBytes) :
    ∃ place, system.LeadsTo (PathName.below root (names ++ [name])) (.file place content) := by
  have allNamed := toRoot.allWellNamed wellNamed
  have notNil := List.append_ne_nil_of_right_ne_nil names (List.cons_ne_nil name [])
  obtain ⟨place, further⟩ := leads_of_reaches toRoot.entriesBelow? allNamed reaches
  exact ⟨place, toRoot.below_of_leads notNil (reaches.isName allNamed.each) further short⟩

/-- The path of a directory that stands in a root leads to this directory, unless it is
too long. -/
theorem LeadsTo.enter {root name : String} {location : Location} {entries inner : List Entry}
    (toRoot : system.LeadsTo root (.directory location entries)) (wellNamed : system.WellNamed)
    (member : .directory name inner ∈ entries)
    (short : (PathName.below root [name]).utf8ByteSize ≤ maxPathBytes) :
    system.LeadsTo (PathName.below root [name]) (.directory (location ++ [name]) inner) := by
  have here := toRoot.entriesBelow?
  have allNamed := toRoot.allWellNamed wellNamed
  have isName : Entry.IsName name := (allNamed.each _ member).isName
  have named : ∀ other ∈ [name], Entry.IsName other := by
    intro other single
    exact List.mem_singleton.mp single ▸ isName
  exact toRoot.below_of_leads (List.cons_ne_nil name []) named
    (.enter (.ofName isName) (entryAt?_of_mem here allNamed member)
      (.stop (entriesBelow?_of_mem here allNamed member))) short

/-- Slashes behind a dot lead nowhere else than the dot, up to the limit. -/
theorem leadsTo_dotSlashes {entries : List Entry} {count : Nat}
    (here : Entry.entriesBelow? system.workingDirectory system.entries = some entries)
    (short : count + 2 ≤ maxPathBytes) :
    system.LeadsTo (PathName.dotSlashes (count + 1))
      (.directory system.workingDirectory entries) where
  notEmpty := PathName.below_ne_empty (by decide) _
  noZero zero := by
    rcases PathName.mem_below zero with inRoot | slash | ⟨name, member, inside⟩
    · exact absurd inRoot (by decide)
    · exact absurd slash (by decide)
    · rw [List.eq_of_mem_replicate member] at inside
      exact absurd inside (by decide)
  short := PathName.utf8ByteSize_dotSlashes count ▸ short
  leads := by
    have relative : PathName.isAbsolute (PathName.dotSlashes (count + 1)) = false :=
      PathName.isAbsolute_below (by decide) _
    refine ⟨0, Nat.zero_le _, ?_⟩
    rw [startOf, relative]
    exact leads_of_nothing here fun _ => PathName.eq_of_mem_pieces_dotSlashes

end FileSystem

end SourceLines
