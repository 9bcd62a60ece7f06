set_option autoImplicit false

namespace DrawScript.Template

def bundledLines : List String := [
    "#include <stdio.h>",
    "#include <stdbool.h>",
    "#include <SDL2/SDL.h>",
    "",
    "#include \"globals.h\"",
    "#include \"shapes.h\"",
    "#include \"cursor.h\"",
    "",
    "int main(int argc, char* argv[])",
    "\x7b",
    "    (void)argc;",
    "    (void)argv;",
    "",
    "    if (SDL_Init(SDL_INIT_VIDEO) != 0)",
    "    \x7b",
    "        fprintf(stderr, \"SDL_Init failed: %s\\n\", SDL_GetError());",
    "        return 1;",
    "    \x7d",
    "",
    "    SDL_Surface* surface = SDL_CreateRGBSurfaceWithFormat(0, SCREEN_WIDTH, SCREEN_HEIGHT, 32, SDL_PIXELFORMAT_RGBA32);",
    "    SDL_Renderer* renderer = SDL_CreateSoftwareRenderer(surface);",
    "    if (surface == NULL || renderer == NULL)",
    "    \x7b",
    "        fprintf(stderr, \"cannot create drawing surface: %s\\n\", SDL_GetError());",
    "        SDL_Quit();",
    "        return 1;",
    "    \x7d",
    "",
    "    FILE* file = fopen(\"Data/Outputs/drawing_positions.txt\", \"w\");",
    "    if (file == NULL)",
    "    \x7b",
    "        fprintf(stderr, \"cannot open Data/Outputs/drawing_positions.txt\\n\");",
    "        SDL_DestroyRenderer(renderer);",
    "        SDL_FreeSurface(surface);",
    "        SDL_Quit();",
    "        return 1;",
    "    \x7d",
    "",
    "    char filename[256];",
    "    int drawing_index = 1;",
    "",
    "    SDL_SetRenderDrawColor(renderer, 255, 255, 255, 255);",
    "    SDL_RenderClear(renderer);",
    "",
    "    // INSERT VARIABLES",
    "",
    "    // INSERT DRAWINGS",
    "",
    "    fclose(file);",
    "    SDL_DestroyRenderer(renderer);",
    "    SDL_FreeSurface(surface);",
    "    SDL_Quit();",
    "    return 0;",
    "\x7d"
]

def bundled : String := String.join (bundledLines.map (· ++ "\n"))

end DrawScript.Template
