import ParcelRecords.Text.Search

/-!
# Paths

The written form of paths: no empty parts, no parts that stay in place.

## Main definitions

* `Path.normalize` writes a path in its plain form.
* `Path.stem` is the name of a file without its last suffix.
-/

namespace ParcelRecords.Path

/-- The parts of a path, without those that stay in place. -/
def parts (path : List Char) : List (List Char) :=
  (Text.splitAt '/' path).filter fun p => p ≠ [] ∧ p ≠ ['.']

/-- The slashes that a path begins with: one, or two if there are exactly two. -/
def root (path : List Char) : List Char :=
  match path.takeWhile (· = '/') with
  | [] => []
  | ['/', '/'] => ['/', '/']
  | _ => ['/']

/-- The plain form of a path; a path without parts is the current directory. -/
def normalize (path : String) : String :=
  let cs := path.toList
  match root cs ++ Text.joinWith ['/'] (parts cs) with
  | [] => "."
  | plain => String.ofList plain

/-- The last part of a path. -/
def name (path : String) : List Char :=
  ((parts path.toList).getLast?).getD []

/-- A name without its last suffix. A point at the beginning or at the end begins no suffix. -/
def dropSuffix (name : List Char) : List Char :=
  let suffix := name.reverse.takeWhile (· ≠ '.')
  let kept := name.take (name.length - suffix.length - 1)
  if suffix.isEmpty || kept.isEmpty then name else kept

/-- The name of a file without its last suffix. -/
def stem (path : String) : String :=
  String.ofList (dropSuffix (name path))

end ParcelRecords.Path
