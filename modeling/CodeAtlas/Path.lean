import CodeAtlas.Text.Blank
import CodeAtlas.Unicode.LowerCase

set_option autoImplicit false

/-! # Slash-separated paths

A path is a text; its segments are the pieces between slashes. Resolving drops empty and `.` segments
and lets `..` take back the segment before it. -/

namespace CodeAtlas.Path

/-- The pieces between the slashes. -/
def segments (p : String) : List String :=
  Text.split (· == '/') p

/-- Segments joined by slashes. -/
def ofSegments (l : List String) : String :=
  "/".intercalate l

/-- Does the path start at the root of the file system? -/
def isAbsolute (p : String) : Bool :=
  p.startsWith "/"

/-- One segment added to those already resolved, which stand last first. A `..` that has nothing to take
    back is kept if `climbs` is set and dropped otherwise. -/
def push (climbs : Bool) (done : List String) (s : String) : List String :=
  if s = "" ∨ s = "." then done
  else if s = ".." then
    match done with
    | [] => if climbs then [".."] else []
    | d :: rest => if d = ".." then ".." :: done else rest
  else s :: done

/-- Resolve `.`, `..` and empty segments. -/
def resolveSegments (climbs : Bool) (l : List String) : List String :=
  (l.foldl (push climbs) []).reverse

/-- The shortest equivalent path; a slash at the end stays. -/
def normalize (p : String) : String :=
  if p = "" then "."
  else
    let rooted := isAbsolute p
    let slash := p.endsWith "/"
    match resolveSegments (!rooted) (segments p) with
    | [] => if rooted then "/" else if slash then "./" else "."
    | l => (if rooted then "/" else "") ++ ofSegments l ++ (if slash then "/" else "")

/-- The path `q` seen from the directory `p`, normalised; empty parts are skipped. -/
def join (p q : String) : String :=
  if p = "" then normalize q
  else if q = "" then normalize p
  else normalize (p ++ "/" ++ q)

/-- The absolute path that `p` names, seen from the file-system root. -/
def absolute (p : String) : String :=
  "/" ++ ofSegments (resolveSegments false (segments p))

/-- The absolute path that `q` names when the working directory is `p`. -/
def resolve (p q : String) : String :=
  if isAbsolute q then absolute q else absolute (p ++ "/" ++ q)

def absoluteSegments (p : String) : List String :=
  resolveSegments false (segments p)

/-- Both lists without their longest common beginning. -/
def dropCommon : List String → List String → List String × List String
  | a :: as, b :: bs => if a = b then dropCommon as bs else (a :: as, b :: bs)
  | as, bs => (as, bs)

/-- The way from one absolute path to another; empty if they are the same. -/
def relative (start target : String) : String :=
  let (up, down) := dropCommon (absoluteSegments start) (absoluteSegments target)
  ofSegments (List.replicate up.length ".." ++ down)

/-- The path without the slashes at its end. -/
def dropTrailingSlashes (p : String) : String :=
  String.ofList (p.toList.reverse.dropWhile (· == '/')).reverse

/-- The last segment, slashes at the end ignored. -/
def basename (p : String) : String :=
  String.ofList ((p.toList.reverse.dropWhile (· == '/')).takeWhile (· != '/')).reverse

/-- What precedes the last segment, slashes at the end ignored. -/
def dirname (p : String) : String :=
  match ((p.toList.reverse.dropWhile (· == '/')).dropWhile (· != '/')).drop 1 with
  | [] => if isAbsolute p then "/" else "."
  | ['/'] => "//"
  | rest => String.ofList rest.reverse

/-- The extension of the last segment with its dot; a dot that begins the segment does not count. -/
def extname (p : String) : String :=
  let base := (basename p).toList
  let tail := base.reverse.takeWhile (· != '.')
  if tail.length = base.length ∨ tail.length + 1 = base.length ∨ base = ['.', '.'] then ""
  else String.ofList ('.' :: tail.reverse)

/-- The extension in lower case, empty if there is none. -/
def extension (p : String) : String :=
  Unicode.lower (extname p)

/-- The path of a file as seen from a repository root: `.` for the root itself, and the path unchanged
    for what lies outside. -/
def toRepository (root file : String) : String :=
  let r := relative root file
  if r = "" then "."
  else if r = ".." ∨ r.startsWith "../" then file
  else r

end CodeAtlas.Path
