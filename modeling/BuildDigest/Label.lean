import BuildDigest.Pattern.CharSet

set_option autoImplicit false

namespace BuildDigest.Label

def isRepositoryChar (c : Char) : Bool :=
  Pattern.isWord c || c = '.' || c = '~' || c = '+' || c = '-'

def isPackageChar (c : Char) : Bool :=
  Pattern.isWord c || c = '.' || c = '/' || c = '+' || c = '-'

def isTargetChar (c : Char) : Bool :=
  Pattern.isWord c || c = '.' || c = '/' || c = '+' || c = '=' || c = ',' || c = '@' || c = '~' ||
    c = '-'

def local? : List Char → Option (List Char)
  | '/' :: '/' :: cs =>
      match cs.dropWhile isPackageChar with
      | ':' :: rest =>
          let target := rest.takeWhile isTargetChar
          if target.isEmpty then none
          else some ('/' :: '/' :: cs.takeWhile isPackageChar ++ ':' :: target)
      | _ => none
  | _ => none

def inRepository? (cs : List Char) : Option (List Char) :=
  (local? (cs.dropWhile isRepositoryChar)).map fun label => cs.takeWhile isRepositoryChar ++ label

def head? : List Char → Option (List Char)
  | '@' :: '@' :: cs => (inRepository? cs).map fun label => '@' :: '@' :: label
  | '@' :: cs => (inRepository? cs).map fun label => '@' :: label
  | cs => local? cs

def find? : List Char → Option (List Char)
  | [] => none
  | c :: cs =>
      match head? (c :: cs) with
      | some label => some label
      | none => find? cs

def inText (text : String) : String :=
  String.ofList ((find? text.toList).getD [])

end BuildDigest.Label
