import ProcCall.Unicode.Casing
import ProcCall.Unicode.Cluster

/-! # Naming strategies

A strategy derives the name a database knows from the name the source uses. Word
cases split the name at separators and where letters, digits and case change, then
write the words in one style.
-/

namespace ProcCall

inductive NameCase where
  | identity | snake | upperSnake | camel | pascal | lower | upper
  deriving DecidableEq, Repr

structure NamingStrategy where
  case : NameCase := .identity
  /-- Put in front of the converted name, unchanged. -/
  lead : Option String := none
  deriving DecidableEq, Repr

namespace Naming

open Unicode

/-- A user-perceived character. -/
abbrev Cluster := List Char

def isSeparator (g : Cluster) : Bool := g == ['_'] || g == ['-'] || g == [' ']

def isDigit (g : Cluster) : Bool := g.all Char.isDigit

/-- Characters without case are neither upper nor lower. -/
def isUpper (g : Cluster) : Bool := upper g != lower g && g == upper g

def isLower (g : Cluster) : Bool := upper g != lower g && g == lower g

/-- Whether a word ends between `g` and what follows it. In a run of capitals the
last one begins the next word when a small letter follows. -/
def endsWord (g : Cluster) : List Cluster → Bool
  | [] => false
  | h :: rest =>
    isLower g && isUpper h || isLower g && isDigit h || isUpper g && isDigit h ||
      isDigit g && isLower h || isDigit g && isUpper h ||
      isUpper g && isUpper h && (rest.head?.map isLower).getD false

/-- The words of the remaining characters, where `word` is already begun. -/
def cut (word : List Char) : List Cluster → List (List Char)
  | [] => [word]
  | g :: rest =>
    if isSeparator g then word :: cut [] rest
    else if endsWord g rest then (word ++ g) :: cut [] rest
    else cut (word ++ g) rest

def words (name : List Char) : List (List Char) :=
  (cut [] (clusters name)).filter fun w => !w.isEmpty

/-- First character upper, the others lower. -/
def capital (word : List Char) : List Char :=
  match clusters word with
  | [] => []
  | g :: rest => upper g ++ lower rest.flatten

def camel : List (List Char) → List Char
  | [] => []
  | w :: ws => lower w ++ ws.flatMap capital

def joinSnake (ws : List (List Char)) : List Char := ['_'].intercalate ws

def convert (case : NameCase) (name : List Char) : List Char :=
  match case with
  | .identity => name
  | .snake => joinSnake ((words name).map lower)
  | .upperSnake => joinSnake ((words name).map upper)
  | .camel => camel (words name)
  | .pascal => (words name).flatMap capital
  | .lower => lower name
  | .upper => upper name

end Naming

def NamingStrategy.apply (s : NamingStrategy) (name : String) : String :=
  s.lead.getD "" ++ String.ofList (Naming.convert s.case name.toList)

end ProcCall
