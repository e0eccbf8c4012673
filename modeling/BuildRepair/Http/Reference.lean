import BuildRepair.Http.Url

/-
  References: addresses that leave out parts, seen from another address. `join?` fills in what is
  left out. Schemes of which nothing is known have no references.
-/

namespace BuildRepair.Url

/-- The schemes whose addresses may be left out in part. -/
def jointSchemes : List String := [
  "ftp", "http", "gopher", "nntp", "imap", "wais", "file", "https", "shttp", "mms", "prospero",
  "rtsp", "rtsps", "rtspu", "sftp", "svn", "svn+ssh", "ws", "wss"]

/-- Those of them whose paths have parameters behind a semicolon. -/
def parameterSchemes : List String := [
  "ftp", "prospero", "http", "imap", "https", "shttp", "rtsp", "rtsps", "rtspu", "mms", "sftp"]

/-- A path, and the parameters behind the first semicolon of its last component. -/
def splitParameters (scheme path : List Char) : List Char × List Char :=
  if parameterSchemes.contains (String.ofList scheme) then
    let last := (path.reverse.takeWhile (· != '/')).reverse
    let above := path.take (path.length - last.length)
    (above ++ last.takeWhile (· != ';'), (last.dropWhile (· != ';')).drop 1)
  else (path, [])

/-- A path with its parameters. -/
def joinParameters (path parameters : List Char) : List Char :=
  if parameters = [] then path else path ++ ';' :: parameters

/-- The components of a path that is seen from another one: its own ones from the root, else
behind those of the directory, where nothing between them is empty. -/
def componentsFrom (base path : List Char) : List (List Char) :=
  let given := Text.splitOn '/' path
  if path.head? = some '/' then given
  else
    let above := Text.splitOn '/' base
    let all := (if above.getLast? = some [] then above else above.dropLast) ++ given
    all.take 1 ++ (all.drop 1).dropLast.filter (· ≠ []) ++ (all.drop 1).getLast?.toList

/-- One more component of a path; `..` takes back the last one. -/
def resolveComponent (taken : List (List Char)) (component : List Char) : List (List Char) :=
  if component = ['.', '.'] then taken.dropLast
  else if component = ['.'] then taken
  else taken ++ [component]

/-- The path of a reference seen from the path of an address. -/
def resolvePath (base path : List Char) : List Char :=
  let components := componentsFrom base path
  let taken := components.foldl resolveComponent []
  let isDirectory := components.getLast? = some ['.'] ∨ components.getLast? = some ['.', '.']
  let joined := Text.joinWith ['/'] (if isDirectory then taken ++ [[]] else taken)
  if joined = [] then ['/'] else joined

/-- A part that is not empty. -/
def filled (part : Option (List Char)) : Option (List Char) := part.filter (· ≠ [])

/-- Parts of an address in writing. -/
def partsText (scheme authority path : List Char) (query fragment : Option (List Char)) :
    List Char :=
  let slash := if path ≠ [] ∧ path.head? ≠ some '/' then ['/'] else []
  scheme ++ "://".toList ++ authority ++ slash ++ path ++
    (filled query).elim [] ('?' :: ·) ++ (filled fragment).elim [] ('#' :: ·)

/-- A reference seen from an address, in writing. -/
def resolve (base reference : Url) : List Char :=
  let scheme := if reference.scheme = [] then base.scheme else reference.scheme
  if reference.chars = [] then base.chars
  else if scheme ≠ base.scheme ∨ !jointSchemes.contains (String.ofList scheme) then reference.chars
  else
    let (path, parameters) := splitParameters scheme reference.path
    if reference.authority ≠ [] then
      partsText scheme reference.authority (joinParameters path parameters) reference.query
        reference.fragment
    else
      let (basePath, baseParameters) := splitParameters scheme base.path
      if path = [] ∧ parameters = [] then
        partsText scheme base.authority (joinParameters basePath baseParameters)
          (filled reference.query <|> base.query) reference.fragment
      else
        partsText scheme base.authority (joinParameters (resolvePath basePath path) parameters)
          reference.query reference.fragment

/-- The address that a reference denotes, seen from an address. -/
def join? (base reference : Url) : Option Url := ofChars? (base.resolve reference)

end BuildRepair.Url
