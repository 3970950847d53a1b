/-
This file follows one line all the way, from its words to the bytes of a file: `echo`
prints some words, and its output is redirected. On the line the words stand in
single quotes, so they may have any content. The quotes are gone when the line has
been read, the file is opened and emptied or kept, `echo` puts the words together, and
what it prints goes behind what the file kept. That is all the line does.

Each of these steps is known from elsewhere. What remains is that they fit: the path
still leads to the file when all is done, and nothing else in the tree has changed.
-/

import CommandShell.Proofs.Directory
import CommandShell.Proofs.Refusal
import CommandShell.Proofs.Touching
import CommandShell.Proofs.Writing

namespace CommandShell

/-! ### The file -/

namespace Tree

/-- What the file at a place holds. A place without a file holds nothing. -/
def heldAt (tree : Tree) (location : Location) : Content :=
  match tree.get? location with
  | some (.file _ content) => content
  | _ => .ofBytes []

/-- What the file at a place still holds when it has been opened to write to it. -/
def keptAt (tree : Tree) (mode : WriteMode) (location : Location) : Content :=
  match mode with
  | .truncate => .ofBytes []
  | .append => tree.heldAt location

/-- A path that led to a place leads to what stands there after the tree was touched. -/
theorem Touches.inspect_eq {places : Location → Prop} {before after : Tree}
    (touches : Touches places before after) {purpose : Purpose} {base : Base} {path : Path}
    {location : Location} (leads : EndsAt (before.locate purpose base path) location)
    {node : Node} (stands : after.get? location = some node) :
    after.inspect base path = .ok (.standing location, node) := by
  obtain ⟨spot, located, place⟩ :=
    (endsAt_locate_iff fun location => (touches location).1).mpr leads
  have looked := locate_inspect located
  cases spot with
  | removed directory => cases place
  | free directory name =>
    cases place
    rw [get?_of_locate looked] at stands
    cases stands
  | taken reached =>
    cases place
    simp only [inspect, looked, stands]

end Tree

namespace Opens

variable {before opened : World} {mode : WriteMode} {path : Path} {handle : Handle}

/-- A file that has been opened holds what it kept. -/
theorem eq_keptAt (opens : Opens before mode path handle opened) {permissions : Nat}
    {content : Content}
    (stands : opened.tree.get? handle.location = some (.file permissions content)) :
    content = before.tree.keptAt mode handle.location := by
  cases opens with
  | @created directory name leads absent =>
    have inner : directory ++ [name] ≠ [] := by simp
    dsimp only at stands
    rw [Tree.get?_set_same _ inner] at stands
    cases stands
    cases mode with
    | truncate => rfl
    | append => simp only [Tree.keptAt, Tree.heldAt, absent]
  | emptied leads stood allowed truncating =>
    dsimp only at stands
    rw [Tree.get?_set_same _ (Tree.ne_nil_of_get?_eq_file stood)] at stands
    cases stands
    rw [truncating]
    rfl
  | kept leads stood allowed appending =>
    rw [appending]
    simp only [Tree.keptAt, Tree.heldAt, stands]
  | passed leads noDirectory noFile =>
    rw [World.tree_passed] at stands
    exact absurd stands (noFile permissions content)

/-- To open a file changes nothing but the tree. -/
theorem frame_of_file (opens : Opens before mode path handle opened) {permissions : Nat}
    {content : Content}
    (stands : opened.tree.get? handle.location = some (.file permissions content)) :
    opened = { before with tree := opened.tree } := by
  cases opens with
  | passed leads noDirectory noFile =>
    rw [World.tree_passed] at stands
    exact absurd stands (noFile permissions content)
  | _ => rfl

/-- The first write to a file that was opened goes behind what the file kept. -/
theorem exists_writeTo (opens : Opens before mode path handle opened) {permissions : Nat}
    {content : Content}
    (stands : opened.tree.get? handle.location = some (.file permissions content))
    (bytes : Bytes) :
    ∃ next tree new, opened.writeTo handle bytes = .ok (next, { opened with tree := tree }) ∧
      tree.get? handle.location = some (.file permissions new) ∧ new.image = content.image ∧
      new.bytes = content.bytes ++ bytes ∧
      Tree.Touches (· = handle.location) opened.tree tree := by
  -- Writing nothing does not even look at the file.
  by_cases nothing : bytes = []
  · subst nothing
    exact ⟨handle, opened.tree, content, rfl, stands, rfl, (List.append_nil _).symm, .refl _ _⟩
  · rcases writeTo_fresh nothing opens.offset_eq opens.isBlank_of_truncate with
      ⟨next, after, written, reports⟩ | ⟨full, -⟩
    · cases reports with
      | @file _ mode old new stood image added =>
        have inner := Tree.ne_nil_of_get?_eq_file stood
        rw [stands] at stood
        cases stood
        refine ⟨next, _, new, written, Tree.get?_set_same _ inner _, image, added,
          .set rfl inner ?_⟩
        rw [stands]
        exact .rewritten
      | led leads =>
        rw [stands] at leads
        cases leads
      | lost noFile => exact absurd stands (noFile permissions content)
    · rw [stands] at full
      cases full

end Opens

/-! ### The command -/

/-- A line succeeded, and all that it did is to put bytes into the file to which the path leads,
behind what the file kept. -/
structure PutsInto (session : Session) (before : World) (mode : WriteMode) (path : Path)
    (location : Location) (bytes : Bytes) (outcome : Outcome) : Prop where
  result : outcome.result = .ok 0
  session : outcome.session = session
  /-- Nothing was printed, and only the tree has changed. -/
  frame : outcome.world = { before with tree := outcome.world.tree }
  file : ∃ permissions content,
    outcome.world.tree.inspect outcome.world.cwd path =
        .ok (.standing location, .file permissions content) ∧
      content.image = (before.tree.keptAt mode location).image ∧
      content.bytes = (before.tree.keptAt mode location).bytes ++ bytes
  elsewhere : ∀ other, other ≠ location →
    outcome.world.tree.get? other = before.tree.get? other

theorem echoOutput_of_head? {words : List String} (noOption : words.head? ≠ some "-n") :
    echoOutput words = utf8 (" ".intercalate words ++ "\n") := by
  unfold echoOutput
  split
  · exact absurd rfl noOption
  · rfl

/-- The command with its output redirected. -/
def echoStage (args : List String) (redirect : Redirect) : Stage :=
  ⟨"echo", args, some redirect, none⟩

/-- The command `echo` puts what it prints into the file of its redirection. -/
theorem execute_echo {session : Session} {world opened : World} {args : List String}
    {redirect : Redirect} {handle : Handle} {permissions : Nat} {content : Content}
    (fileOpened : world.openFor redirect.mode (session.pathOf redirect) = .ok (handle, opened))
    (stands : opened.tree.get? handle.location = some (.file permissions content)) :
    PutsInto session world redirect.mode (session.pathOf redirect) handle.location
      (echoOutput args) (execute session [echoStage args redirect] world) := by
  have opens := openFor_eq_ok_iff.mp fileOpened
  obtain ⟨leads, touchedFirst⟩ := opens.touches
  obtain ⟨next, tree, new, written, standsThen, image, bytes, touchedThen⟩ :=
    opens.exists_writeTo stands (echoOutput args)
  have touches := touchedFirst.trans touchedThen
  have filesOpened : openAll session [echoStage args redirect] world =
      (.ok [⟨some handle, none⟩], opened) := by
    unfold Session.pathOf at fileOpened
    simp only [echoStage, openAll, openStage, openRedirect, fileOpened]
  have turn : ⟨.ok ([], 0), session, { opened with tree := tree }⟩ =
      takeTurn .echo args (.file handle) (.terminal .stdout) session opened := by
    simp only [takeTurn, Builtin.run, Builtin.request, Builtin.perform, BuiltinResult.print,
      Sink.write, written, Sink.held]
  have program : (echoStage args redirect).program = Builtin.echo.name := rfl
  obtain ⟨own, single, runs⟩ := execute_builtin filesOpened program
  obtain rfl := List.singleton_inj.mp single
  rw [runs _ turn]
  exact {
    result := rfl
    session := rfl
    frame := by rw [opens.frame_of_file stands]
    file := by
      refine ⟨permissions, new, ?_, image.trans ?_, bytes.trans ?_⟩
      · have sameProcess : opened.cwd = world.cwd := by rw [opens.frame]
        dsimp only
        rw [sameProcess]
        exact touches.inspect_eq leads standsThen
      · rw [opens.eq_keptAt stands]
      · rw [opens.eq_keptAt stands]
    elsewhere := fun other different => touches.get?_eq different }

/-! ### The line -/

/-- The line on which `echo` has its words in quotes and its output goes to a file. -/
def echoLine (spelling : Spelling) (options words : List String) (redirect : Redirect) : String :=
  " ".intercalate ("echo" :: options ++ words.map quoted ++
    [spelling.operator .stdout redirect.mode, quoted redirect.target])

/-- The same line as a list of written words. -/
def echoWritten (spelling : Spelling) (options : List WrittenWord) (words : List String)
    (redirect : Redirect) : List WrittenWord :=
  .bare "echo" :: options ++ words.map .quoted ++ (redirect.on .stdout).written spelling

section Line

variable {options : List WrittenWord} {words args : List String} {redirect : Redirect}

theorem echoLine_eq (spelling : Spelling) (options : List WrittenWord) (words : List String)
    (redirect : Redirect) :
    echoLine spelling (options.map WrittenWord.source) words redirect =
      " ".intercalate ((echoWritten spelling options words redirect).map WrittenWord.source) := by
  simp [echoLine, echoWritten, StreamRedirect.written, Redirect.on, WrittenWord.source,
    Function.comp_def]

theorem map_word_echoWritten (spelling : Spelling) (options : List WrittenWord)
    (words : List String) (redirect : Redirect) :
    (echoWritten spelling options words redirect).map WrittenWord.word =
      (echoStage (options.map WrittenWord.word ++ words) redirect).loose.words spelling := by
  simp [echoWritten, echoStage, LooseStage.words, LooseStage.written, LooseStage.redirects,
    Stage.loose, WrittenWord.word, Function.comp_def]

theorem expressible_echoStage
    (ordinary : ∀ word ∈ args, word ≠ "" ∧ word ≠ separator ∧ word ∉ operatorTable.map (·.1))
    (named : redirect.target ≠ "" ∧ redirect.target ≠ separator) :
    (echoStage args redirect).loose.Expressible := by
  have command : "echo" ≠ "" ∧ "echo" ≠ separator ∧ "echo" ∉ operatorTable.map (·.1) := by decide
  refine Stage.expressible_of (List.forall_mem_cons.mpr ⟨command, ordinary⟩) ?_
  intro other member
  obtain rfl := List.mem_singleton.mp member
  exact named

theorem wellFormed_of_mem_echoWritten (readable : ∀ option ∈ options, option.WellFormed)
    (given : ∀ word ∈ words, word ≠ "") (named : redirect.target ≠ "") (spelling : Spelling) :
    ∀ each ∈ echoWritten spelling options words redirect, each.WellFormed := by
  intro each member
  rcases List.mem_append.mp member with front | isRedirect
  · rcases List.mem_append.mp front with first | isWord
    · rcases List.mem_cons.mp first with rfl | isOption
      · exact ⟨by decide, by simp [Piece.WellFormed]⟩
      · exact readable each isOption
    · obtain ⟨word, within, rfl⟩ := List.mem_map.mp isWord
      exact given word within
  · rcases List.mem_pair.mp isRedirect with rfl | rfl
    · exact bare_of_operator (List.mem_cons_of_mem _
        (List.mem_map_of_mem (f := (·.1)) (spelling.mem_table .stdout redirect.mode)))
    · exact named

/-- The line is read as the command with its options and words. -/
theorem ofWords_echoLine (readable : ∀ option ∈ options, option.WellFormed)
    (ordinary : ∀ word ∈ options.map WrittenWord.word ++ words,
      word ≠ "" ∧ word ≠ separator ∧ word ∉ operatorTable.map (·.1))
    (named : redirect.target ≠ "" ∧ redirect.target ≠ separator) (spelling : Spelling) :
    Pipeline.ofWords (splitWords
        (echoLine spelling (options.map WrittenWord.source) words redirect)) =
      .ok [echoStage (options.map WrittenWord.word ++ words) redirect] := by
  have wellFormed := wellFormed_of_mem_echoWritten readable
    (fun word member => (ordinary word (List.mem_append_right _ member)).1) named.1 spelling
  rw [echoLine_eq, splitWords_intercalate wellFormed, map_word_echoWritten]
  exact ofWords_words (expressible_echoStage ordinary named) spelling

variable {session : Session} {world opened : World} {handle : Handle} {permissions : Nat}
  {content : Content}

/-- The line puts what `echo` prints into the file of its redirection. -/
theorem executeLine_echoLine (readable : ∀ option ∈ options, option.WellFormed)
    (ordinary : ∀ word ∈ options.map WrittenWord.word ++ words,
      word ≠ "" ∧ word ≠ separator ∧ word ∉ operatorTable.map (·.1))
    (named : redirect.target ≠ "" ∧ redirect.target ≠ separator)
    (fileOpened : world.openFor redirect.mode (session.pathOf redirect) = .ok (handle, opened))
    (isFile : opened.tree.get? handle.location = some (.file permissions content))
    (spelling : Spelling) :
    PutsInto session world redirect.mode (session.pathOf redirect) handle.location
      (echoOutput (options.map WrittenWord.word ++ words))
      (executeLine session (echoLine spelling (options.map WrittenWord.source) words redirect)
        world) := by
  rw [executeLine_eq_execute (ofWords_echoLine readable ordinary named spelling)]
  exact execute_echo fileOpened isFile

/-- The command `echo` with words in quotes puts the words into a file, with a space between any two
and a newline at the end. Before them the file holds what it held if the line appends to it, and
nothing otherwise. The option `-n` in front of the words, in quotes or not, leaves out the newline.
The line succeeds, prints nothing, and changes neither the session nor anything else in the tree.
The words are not empty and none of them could be taken for a separator or an operator, and the
target could not be taken for a separator. What was opened has to be a file, new or old. -/
theorem executeLine_echo
    (ordinary : ∀ word ∈ words, word ≠ "" ∧ word ≠ separator ∧ word ∉ operatorTable.map (·.1))
    (named : redirect.target ≠ "" ∧ redirect.target ≠ separator)
    (fileOpened : world.openFor redirect.mode (session.pathOf redirect) = .ok (handle, opened))
    (isFile : opened.tree.get? handle.location = some (.file permissions content))
    (spelling : Spelling) :
    (words.head? ≠ some "-n" →
      PutsInto session world redirect.mode (session.pathOf redirect) handle.location
        (utf8 (" ".intercalate words ++ "\n"))
        (executeLine session (echoLine spelling [] words redirect) world)) ∧
    ∀ option ∈ ["-n", quoted "-n"],
      PutsInto session world redirect.mode (session.pathOf redirect) handle.location
        (utf8 (" ".intercalate words))
        (executeLine session (echoLine spelling [option] words redirect) world) := by
  have isOption : "-n" ≠ "" ∧ "-n" ≠ separator ∧ "-n" ∉ operatorTable.map (·.1) := by decide
  have withOption : ∀ word ∈ "-n" :: words,
      word ≠ "" ∧ word ≠ separator ∧ word ∉ operatorTable.map (·.1) :=
    List.forall_mem_cons.mpr ⟨isOption, ordinary⟩
  constructor
  · intro noOption
    have noneReadable : ∀ option ∈ ([] : List WrittenWord), option.WellFormed := by simp
    have puts := executeLine_echoLine noneReadable ordinary named fileOpened isFile spelling
    rwa [List.map_nil, List.map_nil, List.nil_append, echoOutput_of_head? noOption] at puts
  · intro option written
    rcases List.mem_pair.mp written with rfl | rfl
    · have readable : ∀ option ∈ [WrittenWord.bare "-n"], option.WellFormed := by
        intro option member
        obtain rfl := List.mem_singleton.mp member
        exact ⟨by decide, by simp [Piece.WellFormed]⟩
      exact executeLine_echoLine readable withOption named fileOpened isFile spelling
    · have readable : ∀ option ∈ [WrittenWord.quoted "-n"], option.WellFormed := by
        intro option member
        obtain rfl := List.mem_singleton.mp member
        exact isOption.1
      exact executeLine_echoLine readable withOption named fileOpened isFile spelling

end Line

/-- Words with quotes and blanks go into a longer file behind a link. Nothing of it is left, or all
of it if the line appends. -/
theorem executeLine_echo_link :
    let old : Content := .ofBytes (utf8 "a line that was there before\n")
    let tree := ((scratchTree (utf8 "/r")).including [] (utf8 "/r/sub/file")
      (.file 0o644 old)).including [] (utf8 "/r/it's") (.link (utf8 "sub/file"))
    let world := { scratchWorld (utf8 "/r") [] [] false with tree := tree }
    let session := Session.start [] (utf8 "/r")
    let place := scratchRoot (utf8 "/r") ++
      [⟨utf8 "sub", by decide +kernel⟩, ⟨utf8 "file", by decide +kernel⟩]
    let emptying := "echo 'it'\\''s' 'a  b' 'größe' > 'it'\\''s'"
    let appending := "echo -n 'it'\\''s' 'a  b' 'größe' >> 'it'\\''s'"
    PutsInto session world .truncate (utf8 "/r/it's") place (utf8 "it's a  b größe\n")
        (executeLine session emptying world) ∧
      PutsInto session world .append (utf8 "/r/it's") place (utf8 "it's a  b größe")
        (executeLine session appending world) ∧
      world.tree.heldAt place = old := by
  intro old tree world session place emptying appending
  let words := ["it's", "a  b", "größe"]
  have ordinary : ∀ word ∈ words,
      word ≠ "" ∧ word ≠ separator ∧ word ∉ operatorTable.map (·.1) := by decide
  have named : ∀ mode, (Redirect.mk mode "it's").target ≠ "" ∧
      (Redirect.mk mode "it's").target ≠ separator := fun _ => ⟨by simp, by simp [separator]⟩
  have leads : world.tree.locate .create world.cwd (utf8 "/r/it's") = .ok (.taken place) := by
    decide +kernel
  have stands : world.tree.get? place = some (.file 0o644 old) := by decide +kernel
  have path : ∀ mode, session.pathOf ⟨mode, "it's"⟩ = utf8 "/r/it's" := by
    intro mode
    show Path.join (utf8 "/r") (utf8 "it's") = utf8 "/r/it's"
    decide +kernel
  have opensEmptied : world.openFor .truncate (session.pathOf ⟨.truncate, "it's"⟩) =
      .ok (⟨place, false, 0⟩,
        { world with tree := world.tree.set place (.file 0o644 (.ofBytes [])) }) := by
    rw [path]
    exact openFor_eq_ok_iff.mpr (.emptied leads stands (by decide) rfl)
  have isEmpty : (world.tree.set place (.file 0o644 (.ofBytes []))).get? place =
      some (.file 0o644 (.ofBytes [])) :=
    Tree.get?_set_same _ (Tree.ne_nil_of_get?_eq_file stands) _
  have opensKept : world.openFor .append (session.pathOf ⟨.append, "it's"⟩) =
      .ok (⟨place, true, 0⟩, world) := by
    rw [path]
    exact openFor_eq_ok_iff.mpr (.kept leads stands (by decide) rfl)
  have putsLine :=
    (executeLine_echo ordinary (named .truncate) opensEmptied isEmpty .short).1 (by decide)
  have putsWords :=
    (executeLine_echo ordinary (named .append) opensKept stands .short).2 "-n" (by simp)
  rw [path] at putsLine putsWords
  have emptyingLine : echoLine .short [] words ⟨.truncate, "it's"⟩ = emptying := by decide +kernel
  have appendingLine : echoLine .short ["-n"] words ⟨.append, "it's"⟩ = appending := by
    decide +kernel
  rw [emptyingLine] at putsLine
  rw [appendingLine] at putsWords
  refine ⟨putsLine, putsWords, ?_⟩
  simp only [Tree.heldAt, stands]

end CommandShell
