import ApiContract.Text.Alphanumeric
import ApiContract.Text.Lowercase
import ApiContract.Text.ToLower
import ApiContract.Text.ToUpper
import ApiContract.Text.Uppercase

set_option autoImplicit false

namespace ApiContract.Name

open Text

def isSeparator (c : Char) : Bool :=
  c == '-' || c == '_' || c == ' ' || c == '.' || c == '$'

/--
The words of the rest of a name, in lower case, where `word` has been read of the first one and
`mayBreak` says that an upper case letter begins another. A character that is no letter, number or
separator leaves no trace.
-/
def wordsFrom (word : List Char) (mayBreak : Bool) : List Char → List (List Char)
  | [] => [word]
  | c :: cs =>
    if isUppercase c then
      if mayBreak then word :: wordsFrom (toLower c) false cs
      else wordsFrom (word ++ toLower c) false cs
    else if isAlphanumeric c then
      wordsFrom (word ++ [c]) (isLowercase c || c.isDigit) cs
    else if isSeparator c then word :: wordsFrom [] false cs
    else wordsFrom word mayBreak cs

def words (name : String) : List (List Char) :=
  (wordsFrom [] false name.toList).filter (!·.isEmpty)

def snakeCase (name : String) : String :=
  String.ofList (['_'].intercalate (words name))

def capitalize : List Char → List Char
  | [] => []
  | c :: cs => toUpper c ++ cs

def uncapitalize : List Char → List Char
  | [] => []
  | c :: cs => toLower c ++ cs

def upperCamelCase (name : String) : String :=
  String.ofList ((words name).flatMap capitalize)

def lowerCamelCase (name : String) : String :=
  String.ofList (uncapitalize (upperCamelCase name).toList)

end ApiContract.Name
