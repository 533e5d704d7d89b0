/-! # Colours on a terminal

The control sequences that change how the following text is shown.
-/

namespace CompileDesk.Terminal

def reset : String := "\x1b[0m"

def bold : String := "\x1b[1m"

def dim : String := "\x1b[2m"

def red : String := "\x1b[31m"

def green : String := "\x1b[32m"

def yellow : String := "\x1b[33m"

def cyan : String := "\x1b[36m"

def gray : String := "\x1b[90m"

end CompileDesk.Terminal
