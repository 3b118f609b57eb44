/-!
# Grammars of source code

The names and file extensions by which code blocks ask for highlighting.
-/

set_option autoImplicit false

namespace MessageMarkup.Highlight

/-- A grammar: its name and the file extensions it goes by. -/
structure Grammar where
  name : String
  extensions : List String
  deriving DecidableEq, Repr

def Grammar.plainText : Grammar where
  name := "Plain Text"
  extensions := ["txt"]

def Grammar.rust : Grammar where
  name := "Rust"
  extensions := ["rs"]

def Grammar.structured : List Grammar := [
  ⟨"ASP", ["asa"]⟩,
  ⟨"HTML (ASP)", ["asp"]⟩,
  ⟨"ActionScript", ["as"]⟩,
  ⟨"AppleScript", ["applescript", "script editor"]⟩,
  ⟨"Batch File", ["bat", "cmd"]⟩,
  ⟨"NAnt Build File", ["build"]⟩,
  ⟨"C#", ["cs", "csx"]⟩,
  ⟨"C++", ["cpp", "cc", "cp", "cxx", "c++", "C", "h", "hh", "hpp", "hxx", "h++", "inl", "ipp"]⟩,
  ⟨"C", ["c", "h"]⟩,
  ⟨"CSS", ["css", "css.erb", "css.liquid"]⟩,
  ⟨"Clojure", ["clj"]⟩,
  ⟨"D", ["d", "di"]⟩,
  ⟨"Diff", ["diff", "patch"]⟩,
  ⟨"Erlang", ["erl", "hrl", "Emakefile", "emakefile"]⟩,
  ⟨"HTML (Erlang)", ["yaws"]⟩,
  ⟨"Go", ["go"]⟩,
  ⟨"Graphviz (DOT)", ["dot", "DOT", "gv"]⟩,
  ⟨"Groovy", ["groovy", "gvy", "gradle"]⟩,
  ⟨"HTML", ["html", "htm", "shtml", "xhtml", "inc", "tmpl", "tpl"]⟩,
  ⟨"Haskell", ["hs"]⟩,
  ⟨"Literate Haskell", ["lhs"]⟩,
  ⟨"Java Server Page (JSP)", ["jsp"]⟩,
  ⟨"Java", ["java", "bsh"]⟩,
  ⟨"JavaDoc", []⟩,
  ⟨"Java Properties", ["properties"]⟩,
  ⟨"JSON", ["json", "sublime-settings", "sublime-menu", "sublime-keymap", "sublime-mousemap",
    "sublime-theme", "sublime-build", "sublime-project", "sublime-completions",
    "sublime-commands", "sublime-macro", "sublime-color-scheme"]⟩,
  ⟨"JavaScript", ["js", "htc"]⟩,
  ⟨"Regular Expressions (Javascript)", []⟩,
  ⟨"BibTeX", ["bib"]⟩,
  ⟨"LaTeX Log", []⟩,
  ⟨"LaTeX", ["tex", "ltx"]⟩,
  ⟨"TeX", ["sty", "cls"]⟩,
  ⟨"Lisp", ["lisp", "cl", "clisp", "l", "mud", "el", "scm", "ss", "lsp", "fasl"]⟩,
  ⟨"Lua", ["lua"]⟩,
  ⟨"Make Output", []⟩,
  ⟨"Makefile", ["make", "GNUmakefile", "makefile", "Makefile", "OCamlMakefile", "mak", "mk"]⟩,
  ⟨"Markdown", ["md", "mdown", "markdown", "markdn"]⟩,
  ⟨"MultiMarkdown", []⟩,
  ⟨"MATLAB", ["matlab"]⟩,
  ⟨"OCaml", ["ml", "mli"]⟩,
  ⟨"OCamllex", ["mll"]⟩,
  ⟨"OCamlyacc", ["mly"]⟩,
  ⟨"camlp4", []⟩,
  ⟨"Objective-C++", ["mm", "M", "h"]⟩,
  ⟨"Objective-C", ["m", "h"]⟩,
  ⟨"PHP Source", []⟩,
  ⟨"PHP", ["php", "php3", "php4", "php5", "php7", "phps", "phpt", "phtml"]⟩,
  ⟨"Pascal", ["pas", "p", "dpr"]⟩,
  ⟨"Perl", ["pl", "pm", "pod", "t", "PL"]⟩,
  ⟨"Python", ["py", "py3", "pyw", "pyi", "pyx", "pyx.in", "pxd", "pxd.in", "pxi", "pxi.in",
    "rpy", "cpy", "SConstruct", "Sconstruct", "sconstruct", "SConscript", "gyp", "gypi",
    "Snakefile", "wscript"]⟩,
  ⟨"Regular Expressions (Python)", []⟩,
  ⟨"R Console", []⟩,
  ⟨"R", ["R", "r", "s", "S", "Rprofile"]⟩,
  ⟨"Rd (R Documentation)", ["rd"]⟩,
  ⟨"HTML (Rails)", ["rails", "rhtml", "erb", "html.erb"]⟩,
  ⟨"JavaScript (Rails)", ["js.erb"]⟩,
  ⟨"Ruby Haml", ["haml", "sass"]⟩,
  ⟨"Ruby on Rails", ["rxml", "builder"]⟩,
  ⟨"SQL (Rails)", ["erbsql", "sql.erb"]⟩,
  ⟨"Regular Expression", ["re"]⟩,
  ⟨"reStructuredText", ["rst", "rest"]⟩,
  ⟨"Ruby", ["rb", "Appfile", "Appraisals", "Berksfile", "Brewfile", "capfile", "cgi",
    "Cheffile", "config.ru", "Deliverfile", "Fastfile", "fcgi", "Gemfile", "gemspec",
    "Guardfile", "irbrc", "jbuilder", "podspec", "prawn", "rabl", "rake", "Rakefile",
    "Rantfile", "rbx", "rjs", "ruby.rail", "Scanfile", "simplecov", "Snapfile", "thor",
    "Thorfile", "Vagrantfile"]⟩,
  ⟨"Cargo Build Results", []⟩,
  .rust,
  ⟨"SQL", ["sql", "ddl", "dml"]⟩,
  ⟨"Scala", ["scala", "sbt"]⟩,
  ⟨"Bourne Again Shell (bash)", ["sh", "bash", "zsh", "fish", ".bash_aliases",
    ".bash_completions", ".bash_functions", ".bash_login", ".bash_logout", ".bash_profile",
    ".bash_variables", ".bashrc", ".profile", ".textmate_init"]⟩,
  ⟨"Shell-Unix-Generic", []⟩,
  ⟨"commands-builtin-shell-bash", []⟩,
  ⟨"HTML (Tcl)", ["adp"]⟩,
  ⟨"Tcl", ["tcl"]⟩,
  ⟨"Textile", ["textile"]⟩,
  ⟨"XML", ["xml", "xsd", "xslt", "tld", "dtml", "rss", "opml", "svg"]⟩,
  ⟨"YAML", ["yaml", "yml", "sublime-syntax"]⟩
]

end MessageMarkup.Highlight
