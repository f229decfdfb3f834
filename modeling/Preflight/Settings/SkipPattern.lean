/-! # Skip patterns
A pattern without a star names one check. In a pattern with a star the text before the first star and the text
behind it have to begin and end the id, without overlapping; stars behind the first one stand for themselves,
except that two stars alone match everything, as a single one does. -/
namespace Preflight.SkipPattern

def matchesChars (pattern id : List Char) : Bool :=
  if pattern.contains '*' then
    if pattern = ['*'] ∨ pattern = ['*', '*'] then true
    else
      let front := pattern.takeWhile (· ≠ '*')
      let back := (pattern.dropWhile (· ≠ '*')).drop 1
      front.length + back.length ≤ id.length && front.isPrefixOf id && back.isSuffixOf id
  else pattern = id

/-- Whether a pattern covers the id of a check. -/
def covers (pattern id : String) : Bool := matchesChars pattern.toList id.toList

end Preflight.SkipPattern
