import Multimethod.Proofs.Answering

/-!
Paths to a definition. A path is followed name by name, so a joined path goes on from where its first part
leads (`follow_join`), and a detour in it does not show (`read_over_dot`, `read_over_back`). The command line
makes of a path only what is read there: `answers_by_file`.
-/
namespace Multimethod

namespace Files

/-! ### Names -/

private theorem parts_ne_nil (path : List Char) : parts path ≠ [] := by
  induction path with
  | nil => simp [parts]
  | cons c rest ih =>
    unfold parts
    split
    · simp
    · split <;> simp

/-- A slash ends a part. -/
theorem parts_join (path rest : List Char) : parts (path ++ '/' :: rest) = parts path ++ parts rest := by
  induction path with
  | nil => simp [parts]
  | cons c path ih =>
    simp only [List.cons_append, parts, ih]
    split
    · rfl
    · obtain ⟨part, more, shape⟩ := List.exists_cons_of_ne_nil (parts_ne_nil path)
      rw [shape]
      rfl

private theorem parts_of_unbroken {name : List Char} (unbroken : '/' ∉ name) : parts name = [name] := by
  induction name with
  | nil => rfl
  | cons c rest ih =>
    obtain ⟨differs, further⟩ := List.ne_and_not_mem_of_not_mem_cons unbroken
    rw [parts, if_neg (Ne.symm differs), ih further]

private theorem join_chars (path rest : String) :
    (path ++ "/" ++ rest).toList = path.toList ++ '/' :: rest.toList := by
  simp only [String.toList_append, List.append_assoc]
  rfl

private theorem join_size (path rest : String) :
    (path ++ "/" ++ rest).utf8ByteSize = path.utf8ByteSize + 1 + rest.utf8ByteSize := by
  rw [String.utf8ByteSize_append, String.utf8ByteSize_append]
  rfl

private theorem join_given (path rest : String) : path ++ "/" ++ rest ≠ "" := by
  intro empty
  have chars := join_chars path rest
  rw [empty] at chars
  simp at chars

private theorem join_head {path : String} (given : path ≠ "") (rest : String) :
    (path ++ "/" ++ rest).toList.head? = path.toList.head? := by
  rw [join_chars]
  cases chars : path.toList with
  | nil => exact absurd (String.toList_eq_nil_iff.mp chars) given
  | cons c more => rfl

private theorem names_join (path rest : String) : names (path ++ "/" ++ rest) = names path ++ names rest := by
  rw [names, join_chars, parts_join, List.map_append]
  rfl

private theorem names_of_unbroken {name : String} (unbroken : '/' ∉ name.toList) : names name = [name] := by
  rw [names, parts_of_unbroken unbroken, List.map_singleton, String.ofList_toList]

namespace Place

variable {here : Place} {path rest : String}

/-! ### Joined paths -/

/-- Two paths that make one with a slash between them: neither is empty, the second does not start from the
root, and together they are not too long. -/
structure Joins (path rest : String) : Prop where
  given : path ≠ ""
  further : rest ≠ ""
  relative : rest.toList.head? ≠ some '/'
  fits : (path ++ "/" ++ rest).utf8ByteSize ≤ pathLimit

private theorem follow_relative (given : path ≠ "") (relative : path.toList.head? ≠ some '/')
    (fits : path.utf8ByteSize ≤ pathLimit) : here.follow path = (names path).foldlM step here := by
  rw [follow, if_neg given, if_neg (Nat.not_lt.mpr fits), if_neg relative]

/-- What follows in a joined path is followed from where the first part leads. -/
theorem follow_join (joins : Joins path rest) :
    here.follow (path ++ "/" ++ rest) = here.follow path >>= (·.follow rest) := by
  obtain ⟨given, further, relative, fits⟩ := joins
  have sizes := fits
  rw [join_size] at sizes
  have onward : (fun inner : Place => inner.follow rest) = (names rest).foldlM step := by
    funext inner
    exact follow_relative further relative (by omega)
  have short : ¬ pathLimit < path.utf8ByteSize := by omega
  rw [onward]
  unfold follow
  rw [if_neg (join_given path rest), if_neg (Nat.not_lt.mpr fits), join_head given, names_join,
    List.foldlM_append, if_neg given, if_neg short]

/-- A joined path is read from where its first part leads. -/
theorem read_join (joins : Joins path rest) :
    here.read (path ++ "/" ++ rest) = here.follow path >>= (·.read rest) := by
  unfold read
  rw [follow_join joins, bind_assoc]

/-! ### Detours -/

/-- Nothing lies beyond a file, whatever the path. -/
theorem follow_beyond_file {text : String} (file : here.node = .file text) (given : path ≠ "")
    (relative : path.toList.head? ≠ some '/') (fits : path.utf8ByteSize ≤ pathLimit) :
    here.follow path = .error .notDirectory := by
  obtain ⟨name, more, shape⟩ : ∃ name more, names path = name :: more := by
    refine List.exists_cons_of_ne_nil ?_
    simpa [names] using parts_ne_nil path.toList
  rw [follow_relative given relative fits, shape, List.foldlM_cons, step, file]
  rfl

/-- A way from each directory back to itself does not show in the middle of a path. -/
theorem read_over_detour {aside : String} (joins : Joins path rest) (joins' : Joins (path ++ "/" ++ aside) rest)
    (wanders : aside ≠ "" ∧ aside.toList.head? ≠ some '/')
    (back : ∀ inner entries, here.follow path = .ok inner → inner.node = .directory entries →
      inner.follow aside = .ok inner) :
    here.read (path ++ "/" ++ aside ++ "/" ++ rest) = here.read (path ++ "/" ++ rest) := by
  have sizes := joins'.fits
  rw [join_size] at sizes
  have first : Joins path aside := ⟨joins.given, wanders.1, wanders.2, by omega⟩
  rw [join_size] at sizes
  rw [read_join joins', follow_join first, read_join joins, bind_assoc]
  cases led : here.follow path with
  | error refusal => rfl
  | ok inner =>
    change (inner.follow aside >>= fun place => place.read rest) = inner.read rest
    cases there : inner.node with
    | directory entries =>
      rw [back inner entries led there]
      rfl
    | file text =>
      unfold read
      rw [follow_beyond_file there first.further first.relative (by omega),
        follow_beyond_file there joins.further joins.relative (by omega)]
      rfl

/-- A dot stays where it is. -/
theorem read_over_dot (joins : Joins path rest) (joins' : Joins (path ++ "/" ++ ".") rest) :
    here.read (path ++ "/" ++ "." ++ "/" ++ rest) = here.read (path ++ "/" ++ rest) := by
  refine read_over_detour joins joins' (by decide) fun inner entries _ there => ?_
  rw [follow_relative (by decide) (by decide) (by decide)]
  change inner.step "." >>= pure = _
  rw [step, there]
  rfl

/-- Two dots lead back from a directory to the one that holds it. -/
theorem step_back {inner : Place} {name : String} {entries : List (String × Node)}
    (named : name ≠ "" ∧ name ≠ "." ∧ name ≠ "..") (led : here.step name = .ok inner)
    (inside : inner.node = .directory entries) : inner.step ".." = .ok here := by
  obtain ⟨node, around⟩ := here
  cases node with
  | file text => cases led
  | directory held =>
    simp only [step, named, or_self, if_false] at led
    split at led
    · cases led
    · split at led
      · cases led
      · cases led
        subst inside
        rfl

/-- Going into a directory and back does not show. -/
theorem read_over_back {name : String} (joins : Joins path rest)
    (joins' : Joins (path ++ "/" ++ (name ++ "/" ++ "..")) rest)
    (named : name ≠ "" ∧ name ≠ "." ∧ name ≠ "..") (unbroken : '/' ∉ name.toList)
    (inside : ∀ inner, here.follow path = .ok inner →
      ∃ place entries, inner.step name = .ok place ∧ place.node = .directory entries) :
    here.read (path ++ "/" ++ (name ++ "/" ++ "..") ++ "/" ++ rest) = here.read (path ++ "/" ++ rest) := by
  have given := join_given name ".."
  have relative : (name ++ "/" ++ "..").toList.head? ≠ some '/' := by
    rw [join_head named.1]
    exact fun slash => unbroken (List.mem_of_mem_head? slash)
  refine read_over_detour joins joins' ⟨given, relative⟩ fun inner _ led _ => ?_
  obtain ⟨place, entries, entered, directory⟩ := inside inner led
  have sizes := joins'.fits
  rw [join_size, join_size] at sizes
  rw [follow_relative given relative (by omega), names_join, names_of_unbroken unbroken]
  change (inner.step name >>= fun place => place.step ".." >>= pure) = _
  rw [entered]
  exact congrArg (· >>= pure) (step_back named entered directory)

example : (root (.directory [("old", .directory []), ("table", .file "text")])).read "old/.././table" =
    .ok "text" := rfl

end Place

end Files

namespace CommandLine

/-! ### What is made of a path -/

variable {source arguments path other : String} {explain : Bool} {result result' : Result}

/-- What the library says of two texts is what is printed about them, whatever their file is called. -/
theorem Agrees.unique (agrees : Agrees source arguments path explain result)
    (agrees' : Agrees source arguments other explain result') :
    (result.status = 0 ↔ result'.status = 0) ∧ result.lines = result'.lines := by
  refine ⟨agrees.status.trans agrees'.status.symm, ?_⟩
  cases given : Definition.answer source arguments with
  | ok line =>
    obtain ⟨_, _, _, -, judged, lines⟩ := agrees.answered line given
    obtain ⟨_, _, _, -, judged', lines'⟩ := agrees'.answered line given
    rw [lines, lines', Except.ok.inj (judged.symm.trans judged')]
  | error error =>
    obtain ⟨stage, stops⟩ := agrees.refused error given
    rw [(agrees.stopped stage error stops).2.1, (agrees'.stopped stage error stops).2.1]

/-- At a place in a tree of files a path leads to a text, which is then answered as the library does, or the
refusal is reported. -/
theorem answers_by_file (here : Files.Place) (path input : String) (given : Option String)
    (verbose explain : Bool) :
    let result := Invocation.run (Console.ofPlace here input) ⟨verbose, .resolve path given explain⟩
    (∀ source, here.read path = .ok source → Agrees source (given.getD input) path explain result) ∧
    (∀ refusal, here.read path = .error refusal → result.lines = [] ∧ result.status = 1 ∧
      result.failure = some ⟨"Failed to read table file: " ++ path, refusal.message⟩) := by
  intro result
  refine ⟨fun source found => ?_, fun refusal refused => ?_⟩
  · have supplied : given = some (given.getD input) ∨
        given = none ∧ (Console.ofPlace here input).input = pure (.ok (given.getD input)) := by
      cases given with
      | none => exact .inr ⟨rfl, rfl⟩
      | some text => exact .inl rfl
    have reads : Reads (Console.ofPlace here input) path given source (given.getD input) :=
      ⟨congrArg (Except.mapError _) found, supplied⟩
    obtain ⟨resolved, same, agrees⟩ := resolve_agrees reads explain (reported verbose)
    have whole : result = { resolved with events := resolved.events.filter (reported verbose) } := by
      simp only [result, Invocation.run, same]
      rfl
    exact whole ▸ agrees
  · have unread : (Console.ofPlace here input).file path = .error refusal.message :=
      congrArg (Except.mapError _) refused
    simp only [result, Invocation.run, resolve, unread]
    exact ⟨rfl, rfl, rfl⟩

/-- Only what is read at a path matters for what is printed. -/
theorem spellings_answer_alike {here : Files.Place} (same : here.read path = here.read other)
    (input : String) (given : Option String) (verbose explain : Bool) :
    let run path := Invocation.run (Console.ofPlace here input) ⟨verbose, .resolve path given explain⟩
    ((run path).status = 0 ↔ (run other).status = 0) ∧ (run path).lines = (run other).lines := by
  intro run
  obtain ⟨answered, refused⟩ := answers_by_file here path input given verbose explain
  obtain ⟨answered', refused'⟩ := answers_by_file here other input given verbose explain
  cases found : here.read path with
  | ok source => exact (answered source found).unique (answered' source (same ▸ found))
  | error refusal =>
    obtain ⟨empty, failed, -⟩ := refused refusal found
    obtain ⟨empty', failed', -⟩ := refused' refusal (same ▸ found)
    exact ⟨by rw [failed, failed'], empty.trans empty'.symm⟩

end CommandLine

end Multimethod
