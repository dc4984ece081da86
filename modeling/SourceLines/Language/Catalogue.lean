/-
# The languages

The catalogue lists every language whose files are recognised. No file name, no
extension and no interpreter belongs to two of them. Of two marks that start
alike the longer one comes first, because the first that stands at a place is
the one that is taken.
-/

import SourceLines.Language.Basic

namespace SourceLines

namespace Language

/-- Marks that enclose on both sides alike. -/
private def around (mark : String) : Delimiters := .ofStrings mark mark

/-- Comments between these marks. -/
private def block (opening closing : String) : BlockDelimiters :=
  { toDelimiters := .ofStrings opening closing }

/-- The comment marks of C and the many languages that follow it. -/
private def cLike (language : Language) : Language :=
  { language with lineMarks := [stringBytes "//"], blocks := [block "/*" "*/"] }

/-- Literals in double or single quotes. -/
private def bothQuotes : List Delimiters := [around "\"", around "'"]

/-- Comments from a number sign to the end of the line. -/
private def hashMark : List Bytes := [stringBytes "#"]

/-- Every language that is recognised. -/
def catalogue : List Language :=
  [ { name := "Python", extensions := ["py", "pyw"],
      interpreters := ["python", "python2", "python3"],
      lineMarks := hashMark, quotes := bothQuotes,
      docQuotes := [around "\"\"\"", around "'''"] },
    cLike { name := "C", extensions := ["c", "ec", "pgc"], quotes := [around "\""] },
    cLike { name := "C Header", extensions := ["h"], quotes := [around "\""] },
    cLike { name := "Java", extensions := ["java"], quotes := [around "\""] },
    cLike { name := "Go", extensions := ["go"], quotes := [around "\""] },
    cLike
      { name := "C#", extensions := ["cs", "csx"], quotes := [around "\""],
        verbatimQuotes := [.ofStrings "@\"" "\""] },
    cLike
      { name := "JavaScript", extensions := ["js", "mjs"],
        quotes := bothQuotes ++ [around "\x60"] },
    cLike
      { name := "TypeScript", extensions := ["ts"], quotes := bothQuotes ++ [around "\x60"] },
    cLike { name := "CSS", extensions := ["css"], quotes := bothQuotes },
    cLike
      { name := "Rust", extensions := ["rs"], nestsBlocks := true,
        quotes := [around "\"", .ofStrings "#\"" "\"#"],
        verbatimQuotes := [.ofStrings "r##\"" "\"##", .ofStrings "r#\"" "\"#"] },
    { name := "Haskell", extensions := ["hs"], lineMarks := [stringBytes "--"],
      blocks := [block "\x7b-" "-\x7d"], nestsBlocks := true },
    { name := "D", extensions := ["d"], lineMarks := [stringBytes "//"],
      blocks := [block "/*" "*/", { block "/+" "+/" with nests := true }],
      quotes := bothQuotes },
    { name := "SQL", extensions := ["sql"], lineMarks := [stringBytes "--"],
      blocks := [block "/*" "*/"], quotes := [around "'"] },
    { name := "INI", extensions := ["ini"], lineMarks := [stringBytes ";", stringBytes "#"] },
    { name := "YAML", extensions := ["yaml", "yml"], lineMarks := hashMark,
      quotes := bothQuotes },
    { name := "TOML", extensions := ["toml"], lineMarks := hashMark,
      quotes := [around "\"\"\"", around "'''"] ++ bothQuotes },
    { name := "Plain Text", extensions := ["text", "txt"], isLiterate := true },
    { name := "Lua", extensions := ["lua"], lineMarks := [stringBytes "--"],
      blocks := [block "--[[" "]]"], quotes := bothQuotes },
    { name := "Ruby", extensions := ["rb"], interpreters := ["ruby"], lineMarks := hashMark,
      blocks := [block "=begin" "=end"], quotes := bothQuotes },
    { name := "Perl", extensions := ["pl", "pm"], shebangs := ["#!/usr/bin/perl"],
      lineMarks := hashMark, blocks := [block "=pod" "=cut"], quotes := bothQuotes },
    { name := "OCaml", extensions := ["ml", "mli", "mll", "mly", "re", "rei"],
      blocks := [block "(*" "*)"], quotes := [around "\""] },
    { name := "Lisp", extensions := ["lisp", "lsp"], lineMarks := [stringBytes ";"],
      blocks := [block "#|" "|#"], nestsBlocks := true },
    { name := "XML", extensions := ["xml"], blocks := [block "<!--" "-->"],
      quotes := bothQuotes },
    { name := "JSON", extensions := ["json"] },
    { name := "Shell", extensions := ["sh"], shebangs := ["#!/bin/sh"], interpreters := ["sh"],
      lineMarks := hashMark, quotes := bothQuotes },
    { name := "BASH", extensions := ["bash"], shebangs := ["#!/bin/bash"],
      interpreters := ["bash"], lineMarks := hashMark, quotes := bothQuotes },
    { name := "Makefile", fileNames := ["makefile"], extensions := ["makefile", "mak", "mk"],
      lineMarks := hashMark },
    { name := "Dockerfile", fileNames := ["dockerfile"],
      extensions := ["dockerfile", "dockerignore"], lineMarks := hashMark,
      quotes := bothQuotes },
    { name := "CMake", fileNames := ["cmakelists.txt"], extensions := ["cmake"],
      lineMarks := hashMark, quotes := [around "\""] } ]

end Language

end SourceLines
