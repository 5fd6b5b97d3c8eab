import Bindery.Shell.BuiltIn

/-!
Contract: the separate programs of the machine that run no other program.

Owns:
- printing: what `printf`, `echo`, `pwd`, `seq` and `printenv` print;
- texts: whole files, their first and last lines, their counts, their lines in order, and texts
  with other characters;
- files: listing, making and removing them.

Each is a function of the session, the name under which it is called, and its arguments. It reads
and writes the open files of the session, and sets the status.
-/

namespace Bindery.Shell

abbrev Tool := Session → (name : String) → (arguments : List String) → Session

namespace Tool

def say (session : Session) (name text : String) : Session :=
  (session.write 2 (bytesOf (name ++ ": " ++ text ++ "\n").toList)).1

def answer (session : Session) (bytes : List UInt8) : Session :=
  (session.print bytes).ending 0

def answerText (session : Session) (text : String) : Session :=
  answer session (bytesOf text.toList)

/-- A message about arguments, with the hint where to find help, and a status. -/
def misused (session : Session) (name text : String) (status : Int) : Session :=
  ((say session name text).write 2
    (bytesOf ("Try '" ++ name ++ " --help' for more information.\n").toList)).1.ending status

/-- The status of a session to which a fault was added. -/
def worsened (session : Session) : Session := session.ending 1

def causeText : Fault → String
  | .io fault => fault.cause.text
  | _ => "Invalid argument"

/-- The bytes of a file, or of the standard input. -/
def content (session : Session) (file : String) : Except String (List UInt8) × Session :=
  if file = "-" then
    match session.channel? 0 with
    | some (_, .directory) => (.error "Is a directory", session)
    | some _ =>
        let (bytes, after) := session.readAll 0
        (.ok bytes, after)
    | none => (.error "Bad file descriptor", session)
  else if file = "/dev/null" then (.ok [], session)
  else if file.isEmpty then (.error "No such file or directory", session)
  else
    match session.files.read session.base (pathOf file) with
    | .ok bytes => (.ok bytes, session)
    | .error fault => (.error (causeText fault), session)

/-! ## Printing -/

/-- Prints its arguments in the places of a format. -/
def printf : Tool := fun session name arguments =>
  match withoutDashes arguments with
  | format :: rest =>
      let output := formatted .program format rest
      let spoken := output.faults.foldl
        (fun session fault => say session name (fault.text .program)) session
      (spoken.print output.bytes).ending (output.status .program)
  | [] => misused session name "missing operand" 1

/-- Prints its arguments. Escapes count only if that is asked for. -/
def echo : Tool := fun session _ arguments =>
  let options := arguments.takeWhile fun word =>
    word.startsWith "-" && 1 < word.length && (word.toList.drop 1).all "neE".toList.contains
  let letters := options.flatMap fun word => word.toList.drop 1
  let shown := " ".intercalate (arguments.drop options.length)
  let lineEnd : List UInt8 := if letters.contains 'n' then [] else [10]
  if (letters.filter (· != 'n')).getLast? = some 'e' then
    answer session ((escapedText .program shown).append (.ofBytes lineEnd)).bytes
  else answer session (bytesOf shown.toList ++ lineEnd)

def pwd : Tool := fun session _ _ => answerText session (session.directory ++ "\n")

def seq : Tool := fun session name arguments =>
  let (first, step, last) : Option Int × Option Int × Option Int :=
    match arguments.map decimal? with
    | [last] => (some 1, some 1, last)
    | [first, last] => (first, some 1, last)
    | [first, step, last] => (first, step, last)
    | _ => (none, none, none)
  match first, step, last with
  | some first, some step, some last =>
      if step = 0 then misused session name ("invalid Zero increment value: " ++ marked "0") 1
      else
        let count := ((last - first) / step + 1).toNat
        answerText session (String.join ((List.range count).map fun index =>
          toString (first + step * Int.ofNat index) ++ "\n"))
  | _, _, _ => misused session name "missing operand" 1

def printenv : Tool := fun session _ arguments =>
  match arguments with
  | [] =>
      answerText session (String.join (session.environment.map fun (name, value) =>
        name ++ "=" ++ value ++ "\n"))
  | _ =>
      let values := arguments.map fun name => session.environment.lookup name
      (session.printText (String.join (values.filterMap fun value => value.map (· ++ "\n")))).ending
        (if values.all Option.isSome then 0 else 1)

/-! ## Texts -/

/-- The files that arguments name, or the standard input. -/
def filesOf (arguments : List String) : List String :=
  if arguments.isEmpty then ["-"] else arguments

/-- What a program does with the bytes of each file. -/
def overFiles (name : String) (use : Session → String → List UInt8 → Session) (session : Session) :
    List String → Session
  | [] => session
  | file :: rest =>
      match content session file with
      | (.ok bytes, after) => overFiles name use (use after file bytes) rest
      | (.error text, after) =>
          overFiles name use (worsened (say after name (file ++ ": " ++ text))) rest

def cat : Tool := fun session name arguments =>
  overFiles name (fun session _ bytes => session.print bytes) (session.ending 0)
    (filesOf (withoutDashes (arguments.filter (· != "-u"))))

def linesWithEnds : List UInt8 → List (List UInt8)
  | [] => []
  | byte :: rest =>
      if byte = 10 then [10] :: linesWithEnds rest
      else
        match linesWithEnds rest with
        | line :: others => if rest.isEmpty then [[byte]] else (byte :: line) :: others
        | [] => [[byte]]

/-- A count that an option of `head` or `tail` gives, whether it counts lines, and the words behind
it. The count may have a sign in front. -/
def countOption (arguments : List String) : Bool × String × List String :=
  match arguments with
  | "-n" :: count :: rest => (true, count, rest)
  | "-c" :: count :: rest => (false, count, rest)
  | word :: rest =>
      if word.startsWith "-n" then (true, (word.drop 2).toString, rest)
      else if word.startsWith "-c" then (false, (word.drop 2).toString, rest)
      else if word.startsWith "-" && (digits? (word.drop 1).toString).isSome then
        (true, (word.drop 1).toString, rest)
      else (true, "10", arguments)
  | [] => (true, "10", [])

/-- Prints the beginning of files. A count with a minus sign is of what is left out. -/
def head : Tool := fun session name arguments =>
  let (byLines, text, files) := countOption arguments
  let without := text.startsWith "-"
  match digits? (if without then (text.drop 1).toString else text) with
  | none =>
      misused session name
        ("invalid number of " ++ (if byLines then "lines" else "bytes") ++ ": " ++ marked text) 1
  | some count =>
      let kept {α : Type} (items : List α) : List α :=
        if without then items.take (items.length - count) else items.take count
      overFiles name
        (fun session _ bytes => session.print
          (if byLines then (kept (linesWithEnds bytes)).flatten else kept bytes))
        (session.ending 0) (filesOf files)

/-- Prints the end of files. A count with a plus sign is of where it begins. -/
def tail : Tool := fun session name arguments =>
  let (byLines, text, files) := countOption arguments
  let fromStart := text.startsWith "+"
  let signed := fromStart || text.startsWith "-"
  match digits? (if signed then (text.drop 1).toString else text) with
  | none =>
      misused session name
        ("invalid number of " ++ (if byLines then "lines" else "bytes") ++ ": " ++ marked text) 1
  | some count =>
      let kept {α : Type} (items : List α) : List α :=
        if fromStart then items.drop (count - 1) else items.drop (items.length - count)
      overFiles name
        (fun session _ bytes => session.print
          (if byLines then (kept (linesWithEnds bytes)).flatten else kept bytes))
        (session.ending 0) (filesOf files)

def wordCount (bytes : List UInt8) : Nat :=
  ((bytes.splitBy fun left right => isSpace (octet left) = isSpace (octet right)).filter
    fun run => !run.all fun byte => isSpace (octet byte)).length

def countsOf (chosen : List Char) (bytes : List UInt8) : List Nat :=
  (if chosen.contains 'l' then [bytes.count 10] else []) ++
    (if chosen.contains 'w' then [wordCount bytes] else []) ++
    (if chosen.contains 'm' then [(Text.decodeLossy bytes).length] else []) ++
    (if chosen.contains 'c' then [bytes.length] else [])

/-- Numbers in columns of a width, and what they are about. -/
def countLine (width : Nat) (numbers : List Nat) (label : String) : String :=
  let column (number : Nat) : String :=
    let shown := toString number
    String.ofList (List.replicate (width - shown.length) ' ') ++ shown
  " ".intercalate (numbers.map column) ++ label ++ "\n"

def wc : Tool := fun session name arguments =>
  let options := arguments.takeWhile fun word => word.startsWith "-" && 1 < word.length
  let letters := options.flatMap fun word => word.toList.drop 1
  let chosen := if letters.isEmpty then ['l', 'w', 'c'] else letters
  let named := arguments.drop options.length
  let files := filesOf named
  let total := files.foldl
    (fun total file =>
      match content session file with
      | (.ok bytes, _) => total + bytes.length
      | (.error _, _) => total) 0
  let piped :=
    match session.channel? 0 with
    | some (_, .file ..) => false
    | _ => named.isEmpty
  let width :=
    if (countsOf chosen []).length = 1 && files.length = 1 then 1
    else max (if piped then 7 else 1) (toString total).length
  let sums := overFiles name
    (fun session file bytes => session.printText
      (countLine width (countsOf chosen bytes) (if named.isEmpty then "" else " " ++ file)))
    (session.ending 0) files
  if 1 < files.length then
    let all := files.flatMap fun file => (content session file).1.toOption.getD []
    sums.printText (countLine width (countsOf chosen all) " total")
  else sums

/-- The characters that an argument of `tr` stands for. -/
def translated : (fuel : Nat) → List Char → List Char
  | 0, _ => []
  | _, [] => []
  | fuel + 1, '[' :: ':' :: rest =>
      let kind := String.ofList (rest.takeWhile Char.isAlpha)
      ((List.range 256).map Char.ofNat).filter (isOfKind kind) ++
        translated fuel (rest.drop (kind.length + 2))
  | fuel + 1, '\\' :: c :: rest =>
      match readEscape .builtIn false c rest with
      | (.bytes content, left) =>
          (if content.length = 1 then octetsOf content else [c]) ++ translated fuel left
      | _ => translated fuel rest
  | fuel + 1, low :: '-' :: high :: rest =>
      (List.range (high.toNat + 1 - low.toNat)).map (fun index => Char.ofNat (low.toNat + index)) ++
        translated fuel rest
  | fuel + 1, c :: rest => c :: translated fuel rest

/-- Prints the standard input with other characters, or without some. -/
def tr : Tool := fun session _ arguments =>
  let options := arguments.takeWhile fun word => word.startsWith "-" && 1 < word.length
  let letters := options.flatMap fun word => word.toList.drop 1
  let sets := (arguments.drop options.length).map fun text =>
    translated (text.length + 1) text.toList
  let (bytes, after) := session.readAll 0
  let chars := octetsOf bytes
  let first := sets.headD []
  let second := (sets.drop 1).headD []
  let chosen (c : Char) : Bool := first.contains c != (letters.contains 'c' || letters.contains 'C')
  let changed :=
    if letters.contains 'd' then chars.filter fun c => !chosen c
    else if second.isEmpty then chars
    else chars.map fun c =>
      if !chosen c then c
      else if letters.contains 'c' || letters.contains 'C' then second.getLastD c
      else second.getD (first.idxOf c) (second.getLastD c)
  let squeezed := if second.isEmpty then first else second
  let shown :=
    if letters.contains 's' then
      (changed.foldl (fun kept c =>
        if squeezed.contains c && kept.head? = some c then kept else c :: kept) []).reverse
    else changed
  answer after (bytesOf shown)

def sort : Tool := fun session name arguments =>
  let options := arguments.takeWhile fun word => word.startsWith "-" && 1 < word.length
  let letters := options.flatMap fun word => word.toList.drop 1
  let files := filesOf (arguments.drop options.length)
  let read := files.flatMap fun file =>
    linesWithEnds ((content session file).1.toOption.getD [])
  let lines := read.map fun line => octetsOf (line.filter (· != 10))
  let number (line : List Char) : Int := (readWhole line).1
  let before (left right : List Char) : Bool :=
    if letters.contains 'n' && number left != number right then number left < number right
    else String.ofList left ≤ String.ofList right
  let sorted := lines.mergeSort before
  let ordered := if letters.contains 'r' then sorted.reverse else sorted
  let shown := if letters.contains 'u' then ordered.eraseReps else ordered
  let read := overFiles name (fun session _ _ => session) (session.ending 0) files
  read.print (shown.flatMap fun line => bytesOf line ++ [10])

/-! ## Files -/

def ls : Tool := fun session name arguments =>
  let options := arguments.takeWhile fun word => word.startsWith "-" && 1 < word.length
  let letters := options.flatMap fun word => word.toList.drop 1
  let named := arguments.drop options.length
  let targets := if named.isEmpty then ["."] else named.mergeSort
  let node (target : String) : Option Node :=
    (session.files.status session.base (pathOf target)).toOption
  let missing := targets.filter fun target => (node target).isNone
  let isPlace (target : String) : Bool :=
    !letters.contains 'd' && (node target matches some .directory)
  let plain := targets.filter fun target => (node target).isSome && !isPlace target
  let places := targets.filter isPlace
  let spoken := missing.foldl
    (fun session target => say session name
      ("cannot access '" ++ target ++ "': No such file or directory"))
    (session.ending 0)
  let names (target : String) : List String :=
    match session.files.locate session.base (pathOf target) with
    | .ok place =>
        ((session.files.children place).map octets).filter (fun shown =>
          letters.contains 'a' || letters.contains 'A' || !shown.startsWith ".") |>.mergeSort
    | .error _ => []
  let block (target : String) : String :=
    (if targets.length = 1 then "" else target ++ ":\n") ++
      String.join ((names target).map (· ++ "\n"))
  let files := String.join (plain.map (· ++ "\n"))
  let blocks := places.map block
  let shown := "\n".intercalate (if plain.isEmpty then blocks else files :: blocks)
  (spoken.printText shown).ending (if missing.isEmpty then 0 else 2)

def mkdir : Tool := fun session name arguments =>
  let withParents := arguments.head? = some "-p"
  (if withParents then arguments.drop 1 else arguments).foldl
    (fun session target =>
      let made : Except Fault FileStore :=
        if withParents then
          match session.files.makeDirectories session.base (pathOf target) with
          | (.ok (), files) => .ok files
          | (.error fault, _) => .error fault
        else session.files.makeDirectory session.base (pathOf target)
      match made with
      | .ok files => { session with files := files }
      | .error fault =>
          worsened (say session name
            ("cannot create directory " ++ marked target ++ ": " ++ causeText fault)))
    (session.ending 0)

/-- Removes files, and whole directories if that is asked for. -/
def rm : Tool := fun session name arguments =>
  let options := arguments.takeWhile fun word => word.startsWith "-" && 1 < word.length
  let letters := options.flatMap fun word => word.toList.drop 1
  (arguments.drop options.length).foldl
    (fun session target =>
      let refused (text : String) : Session :=
        worsened (say session name ("cannot remove '" ++ target ++ "': " ++ text))
      match session.files.locate session.base (pathOf target) with
      | .error fault => if letters.contains 'f' then session else refused (causeText fault)
      | .ok place =>
          match session.files.find? place with
          | none =>
              if letters.contains 'f' then session else refused "No such file or directory"
          | some .directory =>
              if letters.contains 'r' || letters.contains 'R' then
                { session with files := session.files.remove place }
              else refused "Is a directory"
          | some (.file _) => { session with files := session.files.remove place })
    (session.ending 0)

def touch : Tool := fun session name arguments =>
  arguments.foldl
    (fun session target =>
      let old := (session.files.read session.base (pathOf target)).toOption.getD []
      match session.files.write session.base session.now (pathOf target) old with
      | .ok files => { session with files := files }
      | .error (.io fault) =>
          if fault.cause = .isDirectory then session
          else worsened (say session name
            ("cannot touch '" ++ target ++ "': " ++ fault.cause.text))
      | .error _ => worsened session)
    (session.ending 0)

def nothing (status : Int) : Tool := fun session _ _ => session.ending status

def test (bracketed : Bool) : Tool := fun session name arguments =>
  let words := if bracketed then arguments.dropLast else arguments
  if bracketed && arguments.getLast? != some "]" then
    (say session name ("missing " ++ marked "]")).ending 2
  else
    match session.holds (words.length + 1) words with
    | .ok holds => session.ending (if holds then 0 else 1)
    | .error text => (say session name text).ending 2

end Tool

def tools : List (String × Tool) := [
  ("printf", Tool.printf), ("echo", Tool.echo), ("pwd", Tool.pwd), ("seq", Tool.seq),
  ("printenv", Tool.printenv), ("cat", Tool.cat), ("head", Tool.head), ("tail", Tool.tail),
  ("wc", Tool.wc), ("tr", Tool.tr), ("sort", Tool.sort), ("ls", Tool.ls), ("mkdir", Tool.mkdir),
  ("rm", Tool.rm), ("touch", Tool.touch), ("true", Tool.nothing 0), ("false", Tool.nothing 1),
  ("sleep", Tool.nothing 0), ("test", Tool.test false), ("[", Tool.test true)]

end Bindery.Shell
