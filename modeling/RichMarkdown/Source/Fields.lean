import RichMarkdown.Source.Basic

/-! Fields of a node whatever its kind. A kind without the field gives nothing. -/
namespace RichMarkdown.Source.Node

def value? : Node → Option String
  | .content (.leaf (.text value)) => some value
  | .content (.leaf (.inlineCode value)) => some value
  | .content (.leaf (.code _ _ value)) => some value
  | _ => none

def lang? : Node → Option (Option String)
  | .content (.leaf (.code lang _ _)) => some lang
  | _ => none

def depth? : Node → Option HeadingDepth
  | .content (.parent (.heading depth) _) => some depth
  | _ => none

def ordered? : Node → Option Bool
  | .content (.parent (.list ordered _) _) => some ordered
  | _ => none

def url? : Node → Option String
  | .content (.leaf (.image url _ _)) => some url
  | .content (.leaf (.definition d)) => some d.url
  | .content (.parent (.link url _) _) => some url
  | _ => none

def title? : Node → Option (Option String)
  | .content (.leaf (.image _ title _)) => some title
  | .content (.leaf (.definition d)) => some d.title
  | .content (.parent (.link _ title) _) => some title
  | _ => none

def alt? : Node → Option (Option String)
  | .content (.leaf (.image _ _ alt)) => some alt
  | .content (.leaf (.imageReference _ _ alt)) => some alt
  | _ => none

def identifier? : Node → Option String
  | .content (.leaf (.imageReference identifier _ _)) => some identifier
  | .content (.leaf (.definition d)) => some d.identifier
  | .content (.leaf (.footnoteReference identifier _)) => some identifier
  | .content (.parent (.linkReference identifier _) _) => some identifier
  | .content (.parent (.footnoteDefinition identifier _) _) => some identifier
  | _ => none

def children? : Node → Option (List Content)
  | .root cs => some cs
  | .content (.parent _ cs) => some cs
  | .content (.leaf _) => none

end RichMarkdown.Source.Node
