/-!
# Problems of YAML input

Why a text is not one YAML document.
-/

namespace IssueNotice.Yaml

/-- Why a text is not one YAML document. -/
inductive Problem where
  | forbiddenCharacter
  | unexpectedCharacter
  | keyWithoutColon
  | entryNotAllowed
  | keyNotAllowed
  | valueNotAllowed
  | badDirective
  | badAnchor
  | badTag
  | badBlockHeader
  | tabInIndentation
  | unfinishedQuote
  | badEscape
  | unexpectedColon
  | missingDocumentStart
  | severalDocuments
  | missingContent
  | expectedEntry
  | expectedKey
  | expectedCommaOrBracket
  | expectedCommaOrBrace
  | unknownTagHandle
  | unknownVersion
  | unknownAnchor
  deriving Repr, DecidableEq

/-- What is said about a problem. -/
def Problem.message : Problem → String
  | forbiddenCharacter => "control characters are not allowed"
  | unexpectedCharacter => "found character that cannot start any token"
  | keyWithoutColon => "could not find expected ':'"
  | entryNotAllowed => "block sequence entries are not allowed in this context"
  | keyNotAllowed => "mapping keys are not allowed in this context"
  | valueNotAllowed => "mapping values are not allowed in this context"
  | badDirective => "found unknown directive name"
  | badAnchor => "did not find expected alphabetic or numeric character"
  | badTag => "did not find expected tag URI"
  | badBlockHeader => "did not find expected comment or line break"
  | tabInIndentation => "found a tab character where an indentation space is expected"
  | unfinishedQuote => "found unexpected end of stream"
  | badEscape => "found unknown escape character"
  | unexpectedColon => "found unexpected ':'"
  | missingDocumentStart => "did not find expected <document start>"
  | severalDocuments =>
    "deserializing from YAML containing more than one document is not supported"
  | missingContent => "did not find expected node content"
  | expectedEntry => "did not find expected '-' indicator"
  | expectedKey => "did not find expected key"
  | expectedCommaOrBracket => "did not find expected ',' or ']'"
  | expectedCommaOrBrace => "did not find expected ',' or '\x7d'"
  | unknownTagHandle => "found undefined tag handle"
  | unknownVersion => "found incompatible YAML document"
  | unknownAnchor => "unknown anchor"

end IssueNotice.Yaml
