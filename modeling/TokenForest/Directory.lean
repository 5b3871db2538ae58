import TokenForest.Failure

set_option autoImplicit false

namespace TokenForest

/-- Folders and files below one directory, each with the names that lead to it, the latest first. -/
structure Directory where
  folders : List (List String)
  files : List (List String × ByteArray)

namespace Directory

def missing : ReadError := ⟨.notFound, "No such file or directory (os error 2)"⟩
def notFolder : ReadError := ⟨.other, "Not a directory (os error 20)"⟩
def isFolder : ReadError := ⟨.other, "Is a directory (os error 21)"⟩
def nameTooLong : ReadError := ⟨.other, "File name too long (os error 36)"⟩
def zeroInName : ReadError := ⟨.other, "file name contained an unexpected NUL byte"⟩
def undecodable : ReadError := ⟨.invalidData, "stream did not contain valid UTF-8"⟩

def steps (path : String) : List String :=
  (path.toList.splitOn '/').map String.ofList

def isAbsolute (path : String) : Bool :=
  path.toList.head? == some '/'

def plainSteps : List String := ["", ".", ".."]

def move (folder : List String) (step : String) : Option (List String) :=
  if step ∈ ["", "."] then some folder
  else if step = ".." then if folder.isEmpty then none else some folder.dropLast
  else some (folder ++ [step])

def trail (folder : List String) : List String → List (List String)
  | [] => [folder]
  | step :: rest =>
    match move folder step with
    | some next => folder :: trail next rest
    | none => [folder]

def makeFolder (directory : Directory) (path : String) : Directory :=
  if isAbsolute path then directory
  else { directory with folders := trail [] (steps path) ++ directory.folders }

def writeFile (directory : Directory) (path : String) (contents : ByteArray) : Directory :=
  match if isAbsolute path then none else (steps path).foldlM move [] with
  | none => directory
  | some names =>
    { folders := trail [] (steps path).dropLast ++ directory.folders
      files := (names, contents) :: directory.files }

def ofListing (folders : List String) (files : List (String × ByteArray)) : Directory :=
  files.foldl (fun directory file => directory.writeFile file.1 file.2) (folders.foldl makeFolder ⟨[[]], []⟩)

inductive Place
  | folder (names : List String)
  | file (contents : ByteArray)
  /-- A folder that is not below the directory, of whose contents nothing is known. -/
  | outside

def nameLimit : Nat := 255
def pathLimit : Nat := 4095

def child (directory : Directory) (place : Place) (name : String) : Except ReadError Place :=
  match place with
  | .file _ => .error notFolder
  | .outside => .error (if name.utf8ByteSize > nameLimit then nameTooLong else missing)
  | .folder path =>
    let names := path ++ [name]
    if name.utf8ByteSize > nameLimit then .error nameTooLong
    else
      match directory.files.find? (·.1 == names) with
      | some file => .ok (.file file.2)
      | none => if names ∈ directory.folders then .ok (.folder names) else .error missing

def take (directory : Directory) (place : Place) (step : String) : Except ReadError Place :=
  if step ∈ plainSteps then
    match place with
    | .file _ => .error notFolder
    | .outside => .ok .outside
    | .folder names => .ok ((move names step).elim .outside .folder)
  else directory.child place step

def walk (directory : Directory) : Place → List String → Except ReadError Place
  | place, [] => .ok place
  | place, step :: rest =>
    match directory.take place step with
    | .ok next => directory.walk next rest
    | .error error => .error error

def locate (directory : Directory) (path : String) : Except ReadError Place :=
  if '\x00' ∈ path.toList then .error zeroInName
  else if path = "" then .error missing
  else if path.utf8ByteSize > pathLimit then .error nameTooLong
  else directory.walk (if isAbsolute path then .outside else .folder []) (steps path)

def decode (contents : ByteArray) : Except ReadError String :=
  match String.fromUTF8? contents with
  | some text => .ok text
  | none => .error undecodable

def read (directory : Directory) (path : String) : Except ReadError String :=
  match directory.locate path with
  | .ok (.file contents) => decode contents
  | .ok _ => .error isFolder
  | .error error => .error error

def Place.Held (directory : Directory) : Place → Prop
  | .file contents => ∃ names, (names, contents) ∈ directory.files
  | .folder _ | .outside => True

variable {directory : Directory}

theorem held_of_child {place next : Place} {name : String} (stepped : directory.child place name = .ok next) :
    next.Held directory := by
  cases place with
  | file contents => cases stepped
  | outside => cases stepped
  | folder path =>
    simp only [child] at stepped
    split at stepped
    · cases stepped
    · split at stepped
      · next file found =>
        cases stepped
        exact ⟨file.1, List.mem_of_find?_eq_some found⟩
      · split at stepped <;> cases stepped
        trivial

theorem held_of_take {place next : Place} {step : String} (stepped : directory.take place step = .ok next) :
    next.Held directory := by
  unfold take at stepped
  split at stepped
  · cases place with
    | file contents => cases stepped
    | outside =>
      cases stepped
      trivial
    | folder names =>
      cases stepped
      cases move names step <;> trivial
  · exact held_of_child stepped

theorem held_of_walk {steps : List String} {place last : Place} (held : place.Held directory)
    (walked : directory.walk place steps = .ok last) : last.Held directory := by
  induction steps generalizing place with
  | nil =>
    cases walked
    exact held
  | cons step rest ih =>
    cases stepped : directory.take place step with
    | error error => simp [walk, stepped] at walked
    | ok next =>
      simp only [walk, stepped] at walked
      exact ih (held_of_take stepped) walked

theorem toUTF8_of_decode {contents : ByteArray} {text : String} (decoded : decode contents = .ok text) :
    text.toUTF8 = contents := by
  unfold decode at decoded
  split at decoded
  · next found =>
    cases decoded
    unfold String.fromUTF8? at found
    split at found
    · cases found
      rfl
    · cases found
  · cases decoded

theorem mem_files_of_read {path text : String} (got : directory.read path = .ok text) :
    ∃ names, (names, text.toUTF8) ∈ directory.files := by
  unfold read at got
  split at got
  · next contents found =>
    have held : (Place.file contents).Held directory := by
      unfold locate at found
      split at found
      · cases found
      · split at found
        · cases found
        · split at found
          · cases found
          · refine held_of_walk ?_ found
            split <;> trivial
    rw [toUTF8_of_decode got]
    exact held
  · cases got
  · cases got

end Directory

end TokenForest
