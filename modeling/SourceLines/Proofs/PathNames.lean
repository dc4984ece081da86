/-
# Texts of paths

The pieces of a path that is put together from two texts with a slash between
them are the pieces of the two. The path of something below a root is the text of
the root, with a slash after it unless it ends with one, and the names on the way
with slashes between them. Joining the names to the root one after another gives
the same text, because no name ends with a slash.
-/

import SourceLines.Files.System

namespace SourceLines

/-- The names that something in a directory may have. -/
structure Entry.IsName (name : String) : Prop where
  notEmpty : name ≠ ""
  notCurrent : name ≠ "."
  notParent : name ≠ ".."
  noSlash : '/' ∉ name.toList
  noZero : '\x00' ∉ name.toList
  short : name.utf8ByteSize ≤ FileSystem.maxNameBytes

instance (name : String) : Decidable (Entry.IsName name) :=
  decidable_of_iff
    (name ≠ "" ∧ name ≠ "." ∧ name ≠ ".." ∧ '/' ∉ name.toList ∧ '\x00' ∉ name.toList ∧
      name.utf8ByteSize ≤ FileSystem.maxNameBytes)
    ⟨fun ⟨notEmpty, notCurrent, notParent, noSlash, noZero, short⟩ =>
      ⟨notEmpty, notCurrent, notParent, noSlash, noZero, short⟩,
      fun ⟨notEmpty, notCurrent, notParent, noSlash, noZero, short⟩ =>
      ⟨notEmpty, notCurrent, notParent, noSlash, noZero, short⟩⟩

namespace PathName

/-! ## Cutting a text -/

theorem cutAt_ne_nil (separator : Char) (text : Text) : cutAt separator text ≠ [] := by
  cases text with
  | nil => simp [cutAt]
  | cons c rest =>
      simp only [cutAt]
      split
      · simp
      · split <;> simp

/-- A separator ends one piece and starts another. -/
theorem cutAt_append_cons (separator : Char) (first second : Text) :
    cutAt separator (first ++ separator :: second) =
      cutAt separator first ++ cutAt separator second := by
  induction first with
  | nil => simp [cutAt]
  | cons c rest ih =>
      simp only [List.cons_append, cutAt, ih]
      by_cases same : c = separator
      · simp [same]
      · rw [if_neg same, if_neg same]
        cases cut : cutAt separator rest with
        | nil => exact absurd cut (cutAt_ne_nil separator rest)
        | cons piece pieces => rfl

theorem cutAt_of_not_mem {separator : Char} {text : Text} (absent : separator ∉ text) :
    cutAt separator text = [text] := by
  induction text with
  | nil => rfl
  | cons c rest ih =>
      simp only [List.mem_cons, not_or] at absent
      rw [cutAt, if_neg (Ne.symm absent.1), ih absent.2]

theorem pieces_ne_nil (path : String) : pieces path ≠ [] :=
  fun nil => cutAt_ne_nil '/' path.toList (List.map_eq_nil_iff.mp nil)

theorem pieces_append_slash (first second : String) :
    pieces (first ++ "/" ++ second) = pieces first ++ pieces second := by
  have slash : "/".toList = ['/'] := rfl
  rw [pieces, String.toList_append, String.toList_append, slash, List.append_assoc,
    List.singleton_append, cutAt_append_cons, List.map_append]
  rfl

theorem pieces_of_noSlash {name : String} (noSlash : '/' ∉ name.toList) :
    pieces name = [name] := by
  rw [pieces, cutAt_of_not_mem noSlash, List.map_singleton, String.ofList_toList]

/-- Names with slashes between them are cut into these names again. -/
theorem pieces_intercalate {names : List String} (notNil : names ≠ [])
    (noSlash : ∀ name ∈ names, '/' ∉ name.toList) : pieces ("/".intercalate names) = names := by
  induction names with
  | nil => exact absurd rfl notNil
  | cons name rest ih =>
      have first := pieces_of_noSlash (noSlash name List.mem_cons_self)
      by_cases last : rest = []
      · subst last
        rw [String.intercalate_singleton, first]
      · have restNoSlash : ∀ other ∈ rest, '/' ∉ other.toList := by
          intro other member
          exact noSlash other (List.mem_cons_of_mem name member)
        rw [String.intercalate_cons_of_ne_nil last, pieces_append_slash, first, ih last restNoSlash]
        rfl

/-! ## Paths below a root -/

/-- The text of a directory in front of the names in it. -/
def withSlash (directory : String) : String :=
  if endsWithString "/" directory then directory else directory ++ "/"

/-- The path of what the names lead to from a root. -/
def below (root : String) (names : List String) : String :=
  withSlash root ++ "/".intercalate names

theorem below_singleton (root name : String) : below root [name] = withSlash root ++ name := by
  rw [below, String.intercalate_singleton]

theorem join_eq_below {root : String} (notEmpty : root ≠ "") (name : String) :
    join root name = below root [name] := by
  rw [below_singleton, join, withSlash]
  by_cases slash : endsWithString "/" root = true
  · simp [slash]
  · simp [slash, notEmpty]

theorem withSlash_below_singleton (root : String) {name : String} (isName : Entry.IsName name) :
    withSlash (below root [name]) = below root [name] ++ "/" := by
  apply if_neg
  intro slash
  apply isName.noSlash
  obtain ⟨front, same⟩ := endsWithString_iff.mp slash
  rw [below_singleton] at same
  have sameLast := congrArg (·.toList.getLast?) same
  have notNil : name.toList ≠ [] := by
    intro nil
    exact isName.notEmpty (String.toList_eq_nil_iff.mp nil)
  simp only [String.toList_append, List.getLast?_append,
    List.getLast?_eq_some_getLast notNil] at sameLast
  have slashLast : name.toList.getLast notNil = '/' := Option.some.inj sameLast
  exact slashLast ▸ List.getLast_mem notNil

/-- What is below something in a directory is below the directory. -/
theorem below_below (root : String) {name : String} (isName : Entry.IsName name)
    {names : List String} (notNil : names ≠ []) :
    below (below root [name]) names = below root (name :: names) := by
  rw [below, withSlash_below_singleton root isName, below_singleton, below,
    String.intercalate_cons_of_ne_nil notNil]
  simp only [String.append_assoc]

theorem utf8ByteSize_add_le_below_singleton (root name : String) :
    root.utf8ByteSize + name.utf8ByteSize ≤ (below root [name]).utf8ByteSize := by
  rw [below_singleton, withSlash, String.utf8ByteSize_append]
  split
  · exact Nat.le_refl _
  · rw [String.utf8ByteSize_append]
    omega

theorem utf8ByteSize_below_singleton_le (root name : String) (names : List String) :
    (below root [name]).utf8ByteSize ≤ (below root (name :: names)).utf8ByteSize := by
  by_cases last : names = []
  · exact last ▸ Nat.le_refl _
  · rw [below_singleton, below, String.intercalate_cons_of_ne_nil last]
    simp only [String.utf8ByteSize_append]
    omega

/-- The pieces of a path below a root are those of the root, but for the empty one
behind a slash at its end, and the names. -/
theorem pieces_below (root : String) {names : List String} (notNil : names ≠ [])
    (noSlash : ∀ name ∈ names, '/' ∉ name.toList) :
    ∃ front ≠ [], pieces (below root names) = front ++ names ∧
      (pieces root = front ∨ pieces root = front ++ [""]) := by
  by_cases slash : endsWithString "/" root = true
  · obtain ⟨front, rfl⟩ := endsWithString_iff.mp slash
    refine ⟨pieces front, pieces_ne_nil front, ?_, .inr ?_⟩
    · rw [below, withSlash, if_pos slash, pieces_append_slash, pieces_intercalate notNil noSlash]
    · have cut := pieces_append_slash front ""
      rwa [String.append_empty] at cut
  · refine ⟨pieces root, pieces_ne_nil root, ?_, .inl rfl⟩
    rw [below, withSlash, if_neg slash, pieces_append_slash, pieces_intercalate notNil noSlash]

theorem below_eq_append (root : String) (names : List String) :
    ∃ rest, below root names = root ++ rest := by
  by_cases slash : endsWithString "/" root = true
  · exact ⟨_, by rw [below, withSlash, if_pos slash]⟩
  · exact ⟨_, by rw [below, withSlash, if_neg slash, String.append_assoc]⟩

theorem below_ne_empty {root : String} (notEmpty : root ≠ "") (names : List String) :
    below root names ≠ "" := by
  obtain ⟨rest, same⟩ := below_eq_append root names
  rw [same]
  intro empty
  exact notEmpty (String.append_eq_empty_iff.mp empty).1

theorem isAbsolute_below {root : String} (notEmpty : root ≠ "") (names : List String) :
    isAbsolute (below root names) = isAbsolute root := by
  obtain ⟨rest, same⟩ := below_eq_append root names
  rw [same, isAbsolute, isAbsolute, String.toList_append]
  cases characters : root.toList with
  | nil => exact absurd (String.toList_eq_nil_iff.mp characters) notEmpty
  | cons first others => rfl

theorem mem_intercalate {names : List String} {c : Char}
    (member : c ∈ ("/".intercalate names).toList) :
    c = '/' ∨ ∃ name ∈ names, c ∈ name.toList := by
  induction names with
  | nil => simp at member
  | cons name rest ih =>
      by_cases last : rest = []
      · subst last
        rw [String.intercalate_singleton] at member
        exact .inr ⟨name, List.mem_singleton_self name, member⟩
      · rw [String.intercalate_cons_of_ne_nil last, String.toList_append, String.toList_append,
          List.append_assoc, List.mem_append, List.mem_append] at member
        rcases member with inName | slash | inRest
        · exact .inr ⟨name, List.mem_cons_self, inName⟩
        · exact .inl (List.mem_singleton.mp slash)
        · rcases ih inRest with slash | ⟨other, otherMember, inside⟩
          · exact .inl slash
          · exact .inr ⟨other, List.mem_cons_of_mem _ otherMember, inside⟩

/-- The characters of a path below a root are those of the root and of the names,
and slashes. -/
theorem mem_below {root : String} {names : List String} {c : Char}
    (member : c ∈ (below root names).toList) :
    c ∈ root.toList ∨ c = '/' ∨ ∃ name ∈ names, c ∈ name.toList := by
  have inFront : c ∈ (withSlash root).toList → c ∈ root.toList ∨ c = '/' := by
    unfold withSlash
    split
    · exact .inl
    · rw [String.toList_append, List.mem_append]
      exact .imp_right List.mem_singleton.mp
  rw [below, String.toList_append, List.mem_append] at member
  rcases member with front | inNames
  · exact (inFront front).imp_right .inl
  · exact .inr (mem_intercalate inNames)

/-- Different names lead to different paths below one root. -/
theorem below_injective (root : String) {first second : List String} (firstNotNil : first ≠ [])
    (secondNotNil : second ≠ []) (firstNoSlash : ∀ name ∈ first, '/' ∉ name.toList)
    (secondNoSlash : ∀ name ∈ second, '/' ∉ name.toList)
    (same : below root first = below root second) : first = second := by
  have sameNames : "/".intercalate first = "/".intercalate second :=
    (String.append_right_inj (withSlash root)).mp same
  rw [← pieces_intercalate firstNotNil firstNoSlash, sameNames,
    pieces_intercalate secondNotNil secondNoSlash]

theorem mem_pieces_of_mem_parts {path text : String} (member : .name text ∈ parts path) :
    text ∈ pieces path := by
  have inLead : PathPart.name text ∉
      (if isAbsolute path then [PathPart.root]
      else if (pieces path).head? == some "." then [.current] else []) := by
    split
    · simp
    split <;> simp
  rw [parts, List.mem_append] at member
  obtain ⟨piece, kept, same⟩ := List.mem_map.mp (member.resolve_left inLead)
  split at same
  · cases same
  · cases same
    exact (List.mem_filter.mp kept).1

/-- The parts of something in a directory are those of the directory and its name. -/
theorem parts_below_singleton {root name : String} (notEmpty : root ≠ "")
    (isName : Entry.IsName name) : parts (below root [name]) = parts root ++ [.name name] := by
  have noSlash : ∀ other ∈ [name], '/' ∉ other.toList := by
    intro other member
    exact List.mem_singleton.mp member ▸ isName.noSlash
  obtain ⟨front, notNil, cut, whole⟩ := pieces_below root (List.cons_ne_nil name []) noSlash
  have sameLead : (pieces (below root [name])).head? = (pieces root).head? := by
    rw [cut]
    cases front with
    | nil => exact absurd rfl notNil
    | cons first others => rcases whole with whole | whole <;> rw [whole] <;> rfl
  have sameNames : (pieces root).filter (fun piece => piece != "" && piece != ".") =
      front.filter fun piece => piece != "" && piece != "." := by
    rcases whole with whole | whole
    · rw [whole]
    · rw [whole, List.filter_append]
      exact List.append_nil _
  have kept : [name].filter (fun piece => piece != "" && piece != ".") = [name] := by
    simp [isName.notEmpty, isName.notCurrent]
  rw [parts, parts, isAbsolute_below notEmpty, sameLead, cut, List.filter_append, kept, sameNames,
    List.map_append, List.map_singleton, if_neg isName.notParent, List.append_assoc]

/-- A relative path that is not empty does not start with an empty piece. -/
theorem exists_cons_pieces {path : String} (notEmpty : path ≠ "")
    (relative : isAbsolute path = false) :
    ∃ piece others, pieces path = piece :: others ∧ piece ≠ "" := by
  have shown (characters : Text) (c : Char) : String.ofList (c :: characters) ≠ "" := by
    intro empty
    have nil := congrArg String.toList empty
    rw [String.toList_ofList] at nil
    cases nil
  unfold pieces
  cases characters : path.toList with
  | nil => exact absurd (String.toList_eq_nil_iff.mp characters) notEmpty
  | cons c rest =>
      have notSlash : c ≠ '/' := by
        rintro rfl
        rw [isAbsolute, characters] at relative
        exact Bool.noConfusion relative
      rw [cutAt, if_neg notSlash]
      split <;> exact ⟨_, _, rfl, shown _ _⟩

/-- The parts of a path that is not empty start with the root, the working directory or
the piece in front. -/
theorem parts_ne_nil {path : String} (notEmpty : path ≠ "") : parts path ≠ [] := by
  rw [parts]
  by_cases absolute : isAbsolute path = true
  · simp [absolute]
  · obtain ⟨piece, others, cut, shown⟩ :=
      exists_cons_pieces notEmpty (eq_false_of_ne_true absolute)
    by_cases current : piece = "."
    · simp [absolute, cut, current]
    · simp [absolute, cut, current, shown]

/-! ## The working directory with many slashes -/

/-- The path of the working directory with so many slashes at its end. -/
def dotSlashes (count : Nat) : String :=
  below "." (List.replicate count "")

theorem utf8ByteSize_intercalate_replicate (count : Nat) :
    ("/".intercalate (List.replicate (count + 1) "")).utf8ByteSize = count := by
  induction count with
  | zero => rfl
  | succ count ih =>
      have notNil : List.replicate (count + 1) "" ≠ [] := by simp
      rw [List.replicate_succ, String.intercalate_cons_of_ne_nil notNil, String.utf8ByteSize_append,
        String.utf8ByteSize_append, ih]
      exact Nat.add_comm 1 count

theorem utf8ByteSize_dotSlashes (count : Nat) :
    (dotSlashes (count + 1)).utf8ByteSize = count + 2 := by
  have front : withSlash "." = "./" := by decide
  rw [dotSlashes, below, front, String.utf8ByteSize_append, utf8ByteSize_intercalate_replicate]
  exact Nat.add_comm 2 count

theorem eq_of_mem_pieces_dotSlashes {count : Nat} {piece : String}
    (member : piece ∈ pieces (dotSlashes (count + 1))) : piece = "" ∨ piece = "." := by
  have noSlash : ∀ name ∈ List.replicate (count + 1) "", '/' ∉ name.toList := by simp
  obtain ⟨front, -, cut, whole⟩ := pieces_below "." (by simp) noSlash
  rw [dotSlashes, cut, List.mem_append] at member
  rcases member with inFront | inNames
  · have dot : piece ∈ pieces "." := by
      rcases whole with whole | whole
      · exact whole ▸ inFront
      · exact whole ▸ List.mem_append_left _ inFront
    exact .inr (List.mem_singleton.mp dot)
  · exact .inl (List.eq_of_mem_replicate inNames)

end PathName

end SourceLines
