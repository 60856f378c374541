import ShellPractice.Lesson.Basic

/-!
# The lessons that are always there

Eight lessons in the order in which they are offered, from finding one's way around to looking
after a system.
-/

namespace ShellPractice.Lesson

/-- Learn ls, cd, pwd commands. -/
def navigationBasics : Lesson :=
  ofExercises "lab1" "Navigation Basics"
    "Learn ls, cd, pwd commands" .beginner
    [⟨"pwd",
        "Print the current working directory",
        "The pwd command shows you exactly where you are in the file system."⟩,
      ⟨"ls",
        "List the contents of the current directory",
        "The ls command displays all files and folders in your current location."⟩,
      ⟨"cd Documents",
        "Change to the Documents directory",
        "The cd command lets you navigate between directories."⟩,
      ⟨"pwd",
        "Verify your new location",
        "Always good practice to confirm where you are after changing directories."⟩,
      ⟨"ls",
        "List contents of the Documents directory",
        "See what files and folders are in your new location."⟩]

/-- Create, copy, move, and delete files. -/
def fileOperations : Lesson :=
  ofExercises "lab2" "File Operations"
    "Create, copy, move, and delete files" .beginner
    [⟨"mkdir myproject",
        "Create a new directory called \"myproject\"",
        "mkdir creates directories. Essential for organizing your files."⟩,
      ⟨"touch readme.txt",
        "Create an empty file called \"readme.txt\"",
        "touch creates empty files quickly. Great for creating templates."⟩,
      ⟨"ls",
        "List contents to see your new files",
        "Always verify your file operations were successful."⟩,
      ⟨"cp readme.txt backup.txt",
        "Copy readme.txt to create backup.txt",
        "cp command copies files. Format: cp source destination"⟩,
      ⟨"mv backup.txt archive.txt",
        "Rename backup.txt to archive.txt",
        "mv can move files or rename them when used in same directory."⟩,
      ⟨"rm archive.txt",
        "Delete the archive.txt file",
        "rm removes files. Be careful - this is permanent!"⟩]

/-- View and search file contents. -/
def contentManagement : Lesson :=
  ofExercises "lab3" "Content Management"
    "View and search file contents" .intermediate
    [⟨"echo \"Hello World\"",
        "Display text on the terminal",
        "echo prints text to the screen. Basic output command."⟩,
      ⟨"echo \"Learning Shell\" > learning.txt",
        "Write text to a new file",
        "> redirects output to a file, creating or overwriting it."⟩,
      ⟨"cat learning.txt",
        "Display the contents of learning.txt",
        "cat shows the contents of files on your screen."⟩,
      ⟨"echo \"Advanced Topics\" >> learning.txt",
        "Append text to the existing file",
        ">> appends output to a file without overwriting existing content."⟩,
      ⟨"cat learning.txt",
        "View the updated file contents",
        "Verify that your text was appended correctly."⟩]

/-- Shell variables and basic scripting. -/
def variablesScripts : Lesson :=
  ofExercises "lab4" "Variables & Scripts"
    "Shell variables and basic scripting" .intermediate
    [⟨"name=\"DevOps\"",
        "Create a shell variable named \"name\"",
        "Variables store data that can be reused. No spaces around = sign!"⟩,
      ⟨"echo $name",
        "Display the value of the name variable",
        "Use $ prefix to access variable values."⟩,
      ⟨"echo \"Hello $name\"",
        "Use the variable in a string",
        "Variables are expanded inside double quotes."⟩,
      ⟨"echo \"#!/bin/bash\" > script.sh",
        "Create a script file with shebang",
        "Shebang tells system which interpreter to use."⟩,
      ⟨"echo \"echo Hello from script\" >> script.sh",
        "Add a command to the script",
        "Build scripts by adding commands to files."⟩]

/-- Conditionals and loops in shell. -/
def controlFlow : Lesson :=
  ofExercises "lab5" "Control Flow"
    "Conditionals and loops in shell" .advanced
    [⟨"if [ -f \"script.sh\" ]; then echo \"File exists\"; fi",
        "Check if script.sh file exists using if statement",
        "if statements allow conditional execution. -f tests for file existence."⟩,
      ⟨"for i in 1 2 3; do echo \"Number: $i\"; done",
        "Loop through numbers 1, 2, 3 using for loop",
        "for loops iterate over lists of items or ranges."⟩,
      ⟨"count=0",
        "Initialize a counter variable",
        "Set up variables for use in loops and conditions."⟩,
      ⟨"while [ $count -lt 3 ]; do echo \"Count: $count\"; count=$((count + 1)); done",
        "Use while loop to count from 0 to 2",
        "while loops continue as long as condition is true. -lt means \"less than\"."⟩]

/-- Create reusable shell functions. -/
def functionsParameters : Lesson :=
  ofExercises "lab6" "Functions & Parameters"
    "Create reusable shell functions" .advanced
    [⟨"greet() \x7b echo \"Hello $1!\"; \x7d",
        "Create a function that greets someone",
        "Functions are defined with name() \x7b commands; \x7d. $1 is the first parameter."⟩,
      ⟨"greet World",
        "Call the greet function with \"World\" as parameter",
        "Call functions by name followed by parameters separated by spaces."⟩,
      ⟨"calculate() \x7b echo $(($1 + $2)); \x7d",
        "Create a function that adds two numbers",
        "Use $(( )) for arithmetic operations. $1 and $2 are first and second parameters."⟩,
      ⟨"calculate 5 3",
        "Call calculate function with numbers 5 and 3",
        "Pass multiple parameters separated by spaces."⟩,
      ⟨"backup_file() \x7b cp \"$1\" \"$1.backup\"; echo \"Backed up $1\"; \x7d",
        "Create a function to backup files",
        "Functions can contain multiple commands. Quote parameters to handle spaces."⟩]

/-- Managing processes and background jobs. -/
def processManagement : Lesson :=
  ofExercises "lab7" "Process Management"
    "Managing processes and background jobs" .expert
    [⟨"ps aux",
        "List all running processes",
        "ps shows process status. aux shows all processes with detailed info."⟩,
      ⟨"sleep 30 &",
        "Run sleep command in background",
        "& at the end runs commands in background, returning control to shell."⟩,
      ⟨"jobs",
        "List active background jobs",
        "jobs shows background processes started from current shell."⟩,
      ⟨"kill %1",
        "Kill the first background job",
        "%1 refers to job number 1. Use kill %n to terminate job n."⟩,
      ⟨"nohup sleep 60 > /dev/null 2>&1 &",
        "Run process that survives shell exit",
        "nohup prevents hangup signal. Redirects output to avoid terminal dependency."⟩]

/-- File permissions, users, and system info. -/
def systemAdministration : Lesson :=
  ofExercises "lab8" "System Administration"
    "File permissions, users, and system info" .expert
    [⟨"ls -la",
        "List files with detailed permissions",
        "-l shows long format with permissions, -a shows hidden files starting with ."⟩,
      ⟨"chmod 755 script.sh",
        "Set file permissions to rwxr-xr-x",
        "755 means owner can read/write/execute, group and others can read/execute."⟩,
      ⟨"whoami",
        "Display current username",
        "Shows the effective user ID - useful in scripts to check user context."⟩,
      ⟨"df -h",
        "Show disk space usage in human-readable format",
        "df displays filesystem disk space usage. -h makes sizes human-readable."⟩,
      ⟨"free -h",
        "Display memory usage information",
        "free shows RAM and swap usage. -h displays in human-readable format."⟩]

/-- The lessons that are always there, in order. -/
def builtIn : List Lesson :=
  [navigationBasics, fileOperations, contentManagement, variablesScripts,
    controlFlow, functionsParameters, processManagement, systemAdministration]

end ShellPractice.Lesson
